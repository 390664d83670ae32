import RestSuite.Expansion
import RestSuite.Proofs.Sequencing

/-!
# What filling in placeholders can do

A text is filled in from its first placeholder to its last, and the first that names no variable is
the error. Nothing else can go wrong.

* **`Bindings.firstUnbound?`** — the first variable of a text that is not bound.
* **`Bindings.substitute_eq_error_iff`** — a text cannot be filled in exactly if there is such a
  variable.
* **`Bindings.substitute_of_literal`** — a text without placeholders stands for itself.
* **`Bindings.fillAll_congr`** — variables that a text does not refer to do not matter.
* **`Bindings.substitute_referenced`** — the names that a text refers to settle what comes of it.
-/

namespace RestSuite.Bindings

variable {b : Bindings}

/-- The variable is not bound. -/
def lacks (b : Bindings) (name : String) : Bool :=
  (OrderedMap.get? b name).isNone

/-- The first of the variables that a text refers to that is not bound. -/
def firstUnbound? (b : Bindings) (text : String) : Option String :=
  (Placeholder.referenced text).find? b.lacks

theorem fill_reference_of_bound {name : String} (h : ¬ b.lacks name = true) :
    ∃ text, b.fill (.reference name) = .ok text := by
  unfold lacks at h
  cases hget : OrderedMap.get? b name with
  | none =>
    rw [hget] at h
    exact absurd rfl h
  | some value =>
    refine ⟨value.display.toList, ?_⟩
    unfold fill text?
    dsimp only
    rw [hget]
    rfl

theorem fill_reference_of_lacks {name : String} (h : b.lacks name = true) :
    b.fill (.reference name) = .error (.unbound name) := by
  unfold fill text?
  dsimp only
  rw [Option.isNone_iff_eq_none.1 h]
  rfl

/-- Pieces cannot be filled in if the first cannot, or if it can and the others cannot. -/
theorem fillAll_cons_eq_error_iff {piece : Placeholder.Piece} {more : List Placeholder.Piece}
    {e : BindingError} :
    b.fillAll (piece :: more) = .error e ↔
      b.fill piece = .error e ∨ ∃ text, b.fill piece = .ok text ∧ b.fillAll more = .error e := by
  have hrest : ∀ text : List Char,
      (do let rest ← b.fillAll more; Except.ok (text ++ rest)) = Except.error e ↔
        b.fillAll more = .error e := by
    intro text
    rw [bind_eq_error_iff]
    exact or_iff_left fun ⟨_, _, h⟩ => nomatch h
  rw [fillAll, bind_eq_error_iff]
  exact or_congr_right (exists_congr fun text => and_congr_right fun _ => hrest text)

/-- Pieces cannot be filled in exactly if one of them refers to a variable that is not bound, and
the first such variable is the error. Induction on the pieces. -/
theorem fillAll_eq_error_iff {pieces : List Placeholder.Piece} {e : BindingError} :
    b.fillAll pieces = .error e ↔
      ∃ name, (pieces.filterMap Placeholder.Piece.name?).find? b.lacks = some name
        ∧ e = .unbound name := by
  induction pieces with
  | nil => exact ⟨nofun, fun ⟨_, h, _⟩ => nomatch h⟩
  | cons piece more ih =>
    rw [fillAll_cons_eq_error_iff, ih]
    cases piece with
    | literal c =>
      constructor
      · rintro (h | ⟨_, -, h⟩)
        · cases h
        · exact h
      · exact fun h => .inr ⟨[c], rfl, h⟩
    | reference name =>
      rw [List.filterMap_cons_some (by rfl)]
      by_cases hlacks : b.lacks name = true
      · rw [fill_reference_of_lacks hlacks, List.find?_cons_of_pos hlacks]
        constructor
        · rintro (h | ⟨_, h, -⟩)
          · cases h
            exact ⟨name, rfl, rfl⟩
          · cases h
        · rintro ⟨_, hname, rfl⟩
          cases hname
          exact .inl rfl
      · obtain ⟨text, hfill⟩ := fill_reference_of_bound hlacks
        rw [hfill, List.find?_cons_of_neg hlacks]
        constructor
        · rintro (h | ⟨_, -, h⟩)
          · cases h
          · exact h
        · exact fun h => .inr ⟨text, rfl, h⟩

/-- **A text cannot be filled in exactly if it refers to a variable that is not bound.** -/
theorem substitute_eq_error_iff {text : String} {e : BindingError} :
    b.substitute text = .error e ↔
      ∃ name, b.firstUnbound? text = some name ∧ e = .unbound name := by
  unfold substitute firstUnbound? Placeholder.referenced
  rw [bind_eq_error_iff, fillAll_eq_error_iff]
  exact or_iff_left fun ⟨_, _, h⟩ => nomatch h

/-! ## Texts without placeholders -/

/-- The pieces of a text without placeholders are its characters. -/
theorem pieces_of_literal (cs : List Char)
    (h : (Placeholder.pieces cs).filterMap Placeholder.Piece.name? = []) :
    Placeholder.pieces cs = cs.map .literal := by
  fun_induction Placeholder.pieces cs with
  | case1 => rfl
  | case2 c rest name after hfront _ ih => cases h
  | case3 c rest hfront ih => exact congrArg (Placeholder.Piece.literal c :: ·) (ih h)

theorem fillAll_literal (b : Bindings) (cs : List Char) :
    b.fillAll (cs.map .literal) = .ok cs := by
  induction cs with
  | nil => rfl
  | cons c rest ih =>
    rw [List.map_cons, fillAll, ih]
    rfl

/-- **A text without placeholders stands for itself**, whatever is bound. -/
theorem substitute_of_literal (b : Bindings) {text : String}
    (h : Placeholder.referenced text = []) : b.substitute text = .ok text := by
  unfold substitute
  rw [pieces_of_literal text.toList h, fillAll_literal]
  exact congrArg Except.ok String.ofList_toList

/-! ## What the result depends on -/

theorem contains_eq_not_lacks (b : Bindings) (name : String) :
    OrderedMap.contains b name = !b.lacks name := by
  unfold OrderedMap.contains lacks
  cases OrderedMap.get? b name <;> rfl

/-- Of a variable only the text counts. -/
theorem fill_eq_of_text? {b' : Bindings} {name : String} (h : b'.text? name = b.text? name) :
    b'.fill (.reference name) = b.fill (.reference name) := by
  unfold fill
  dsimp only
  rw [h]

/-- **Variables that pieces do not refer to do not matter.** Induction on the pieces. -/
theorem fillAll_congr {b' : Bindings} {pieces : List Placeholder.Piece}
    (h : ∀ name ∈ pieces.filterMap Placeholder.Piece.name?, b'.text? name = b.text? name) :
    b'.fillAll pieces = b.fillAll pieces := by
  induction pieces with
  | nil => rfl
  | cons piece more ih =>
    cases piece with
    | literal c =>
      have hmore := ih h
      rw [fillAll, fillAll, hmore]
      rfl
    | reference name =>
      rw [List.filterMap_cons_some (by rfl), List.forall_mem_cons] at h
      obtain ⟨hname, hrest⟩ := h
      have hmore := ih hrest
      rw [fillAll, fillAll, fill_eq_of_text? hname, hmore]

theorem substitute_congr {b' : Bindings} {text : String}
    (h : ∀ name ∈ Placeholder.referenced text, b'.text? name = b.text? name) :
    b'.substitute text = b.substitute text := by
  unfold substitute
  rw [fillAll_congr h]

theorem firstUnbound?_eq_some_iff {text name : String} :
    b.firstUnbound? text = some name ↔
      ∃ front back, Placeholder.referenced text = front ++ name :: back
        ∧ (∀ earlier ∈ front, OrderedMap.contains b earlier = true)
        ∧ OrderedMap.contains b name = false := by
  unfold firstUnbound?
  rw [List.find?_eq_some_iff_append]
  simp only [contains_eq_not_lacks, Bool.not_eq_eq_eq_not, Bool.not_false, Bool.not_true]
  constructor
  · rintro ⟨hlacks, front, back, hnames, hfront⟩
    exact ⟨front, back, hnames, hfront, hlacks⟩
  · rintro ⟨front, back, hnames, hfront, hlacks⟩
    exact ⟨hlacks, front, back, hnames, hfront⟩

/-- **What comes of a text is settled by the names that it refers to.** It can be filled in exactly
if all of them are bound; else the first of them that is not is the error; and bindings under which
these names stand for the same texts fill it in alike, whatever else is bound. -/
theorem substitute_referenced (b : Bindings) (text : String) :
    ((∃ filled, b.substitute text = .ok filled) ↔
      ∀ name ∈ Placeholder.referenced text, OrderedMap.contains b name = true)
    ∧ (∀ e, b.substitute text = .error e ↔
        ∃ front name back, Placeholder.referenced text = front ++ name :: back
          ∧ (∀ earlier ∈ front, OrderedMap.contains b earlier = true)
          ∧ OrderedMap.contains b name = false ∧ e = .unbound name)
    ∧ ∀ b' : Bindings, (∀ name ∈ Placeholder.referenced text, b'.text? name = b.text? name) →
        b'.substitute text = b.substitute text := by
  have hnone : b.firstUnbound? text = none ↔
      ∀ name ∈ Placeholder.referenced text, OrderedMap.contains b name = true := by
    unfold firstUnbound?
    rw [List.find?_eq_none]
    simp only [contains_eq_not_lacks, Bool.not_eq_eq_eq_not, Bool.not_true, Bool.not_eq_true]
  refine ⟨?_, ?_, ?_⟩
  · rw [← hnone]
    cases hfilled : b.substitute text with
    | ok filled =>
      -- a first name that is not bound would be an error
      refine iff_of_true ⟨filled, rfl⟩ (Option.eq_none_iff_forall_ne_some.2 fun name hname => ?_)
      cases hfilled.symm.trans (substitute_eq_error_iff.2 ⟨name, hname, rfl⟩)
    | error e =>
      obtain ⟨name, hname, -⟩ := substitute_eq_error_iff.1 hfilled
      refine iff_of_false nofun ?_
      rw [hname]
      nofun
  · intro e
    rw [substitute_eq_error_iff]
    constructor
    · rintro ⟨name, hname, rfl⟩
      obtain ⟨front, back, hnames, hfront, hlacks⟩ := firstUnbound?_eq_some_iff.1 hname
      exact ⟨front, name, back, hnames, hfront, hlacks, rfl⟩
    · rintro ⟨front, name, back, hnames, hfront, hlacks, rfl⟩
      exact ⟨name, firstUnbound?_eq_some_iff.2 ⟨front, back, hnames, hfront, hlacks⟩, rfl⟩
  · intro b' hagree
    unfold substitute
    rw [fillAll_congr hagree]

/-- A number, and a text that looks like it. -/
def numbered : Bindings := [("n", .ofNat 7), ("other", .null)]

def worded : Bindings := [("n", .string "7")]

/-- Values that are written alike fill in a text alike, with blanks around the name or without. -/
theorem substitute_referenced_alike :
    (∀ name ∈ Placeholder.referenced "\x7b@n@\x7d \x7b@ n @\x7d",
      numbered.text? name = worded.text? name)
    ∧ numbered.substitute "\x7b@n@\x7d \x7b@ n @\x7d" =
        worded.substitute "\x7b@n@\x7d \x7b@ n @\x7d"
    ∧ worded.substitute "\x7b@n@\x7d \x7b@ n @\x7d" = .ok "7 7" := by
  have hagree : ∀ name ∈ Placeholder.referenced "\x7b@n@\x7d \x7b@ n @\x7d",
      numbered.text? name = worded.text? name := by decide +kernel
  exact ⟨hagree, (substitute_referenced worded _).2.2 numbered hagree, by decide +kernel⟩

end RestSuite.Bindings
