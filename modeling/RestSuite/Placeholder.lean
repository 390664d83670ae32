import RestSuite.Text.Blank

/-!
# Placeholders

A placeholder `{@name@}` stands for the value of a variable. A text is cut into characters that
stand for themselves and placeholders; a marker that begins no placeholder stands for itself.
-/

namespace RestSuite.Placeholder

/-- A part of a text. -/
inductive Piece where
  /-- A character that stands for itself. -/
  | literal (c : Char)
  /-- A placeholder, by the name between its markers without outer blanks. -/
  | reference (name : String)
  deriving DecidableEq, Repr

/-- The characters that a name may hold between the markers. -/
def isNameChar (c : Char) : Bool :=
  c ≠ '@' && c ≠ '{' && c ≠ '}'

/-- What follows the closing marker, if it stands at the front. -/
def afterClosing? : List Char → Option (List Char)
  | '@' :: '}' :: after => some after
  | _ => none

/-- The name and the rest, if a placeholder stands at the front. -/
def atFront? : List Char → Option (List Char × List Char)
  | '{' :: '@' :: rest =>
    let name := rest.takeWhile isNameChar
    if name = [] then none
    else (afterClosing? (rest.dropWhile isNameChar)).map (name, ·)
  | _ => none

theorem length_lt_of_afterClosing? {cs after : List Char} (h : afterClosing? cs = some after) :
    after.length < cs.length := by
  unfold afterClosing? at h
  split at h
  · cases h
    simp only [List.length_cons]
    omega
  · cases h

theorem length_lt_of_atFront? {cs name rest : List Char} (h : atFront? cs = some (name, rest)) :
    rest.length < cs.length := by
  unfold atFront? at h
  split at h
  · next r =>
    have hlen := (List.dropWhile_sublist isNameChar (l := r)).length_le
    simp only at h
    split at h
    · cases h
    · obtain ⟨after, ha, he⟩ := Option.map_eq_some_iff.1 h
      cases he
      have := length_lt_of_afterClosing? ha
      simp only [List.length_cons]
      omega
  · cases h

/-- The pieces of a text. -/
def pieces (cs : List Char) : List Piece :=
  match cs with
  | [] => []
  | c :: rest =>
    match h : atFront? (c :: rest) with
    | some (name, after) =>
      have := length_lt_of_atFront? h
      .reference (String.ofList (Text.trim name)) :: pieces after
    | none => .literal c :: pieces rest
  termination_by cs.length
  decreasing_by
    · assumption
    · exact Nat.lt_succ_self rest.length

/-- The name that a piece refers to. -/
def Piece.name? : Piece → Option String
  | .literal _ => none
  | .reference name => some name

/-- The names that a text refers to, in order and with repetitions. -/
def referenced (s : String) : List String :=
  (pieces s.toList).filterMap Piece.name?

end RestSuite.Placeholder
