import RestSuite.Proofs.Expansion

/-!
# Where placeholders begin and end

A text is scanned from its front, and a marker that begins no placeholder stands for itself. Markers
can overlap (`{@{@x@}@}`, `{@a@{@b@}`), so it is not plain which of them count. They do not get in each
other's way: an opening brace is no part of a name, so no placeholder reaches across one.

* **`Placeholder.atFront?_eq_some_iff`** — what a placeholder at the front of a text is.
* **`Placeholder.pieces_append_brace`** — a text is cut in front of any opening brace.
* **`Placeholder.pieces_append_marked`** — so a placeholder is one, whatever stands around it.
* **`Placeholder.referenced_eq_nil_iff`** — the texts that refer to nothing are those without a
  placeholder in them.
* **`Bindings.substitute_placeholder`** — what this comes to when a text is filled in.
-/

namespace RestSuite

namespace Placeholder

variable {n p s cs : List Char}

/-- What may stand between the markers: something, and no sign that occurs in a marker. -/
structure IsName (n : List Char) : Prop where
  nonempty : n ≠ []
  plain : ∀ c ∈ n, c ≠ '@' ∧ c ≠ '{' ∧ c ≠ '}'

/-- The marker `{@` in front of a name. -/
def opening : String := "\x7b@"

/-- The marker `@}` behind a name. -/
def closing : String := "@\x7d"

/-- A name between its markers. -/
def marked (n : List Char) : List Char :=
  '{' :: '@' :: (n ++ ['@', '}'])

theorem isNameChar_iff {c : Char} : isNameChar c = true ↔ c ≠ '@' ∧ c ≠ '{' ∧ c ≠ '}' := by
  unfold isNameChar
  simp only [Bool.and_eq_true, decide_eq_true_eq, ne_eq, and_assoc]

theorem marked_append (n s : List Char) : marked n ++ s = '{' :: '@' :: (n ++ '@' :: '}' :: s) := by
  unfold marked
  rw [List.cons_append, List.cons_append, List.append_assoc]
  rfl

/-! ## At the front -/

theorem afterClosing?_eq_some_iff : afterClosing? cs = some s ↔ cs = '@' :: '}' :: s := by
  constructor
  · intro h
    unfold afterClosing? at h
    split at h
    · cases h; rfl
    · cases h
  · rintro rfl
    rfl

/-- A name is read up to its closing marker. -/
theorem atFront?_marked (h : IsName n) (s : List Char) : atFront? (marked n ++ s) = some (n, s) := by
  have hplain : ∀ c ∈ n, isNameChar c = true := fun c hc => isNameChar_iff.2 (h.plain c hc)
  -- the sign that closes the name is no part of it
  have hclosing : isNameChar '@' = false := by decide
  have hname : (n ++ '@' :: '}' :: s).takeWhile isNameChar = n := by
    rw [List.takeWhile_append_of_pos hplain, List.takeWhile_cons_of_neg (by rw [hclosing]; decide),
      List.append_nil]
  have hrest : (n ++ '@' :: '}' :: s).dropWhile isNameChar = '@' :: '}' :: s := by
    rw [List.dropWhile_append_of_pos hplain, List.dropWhile_cons_of_neg (by rw [hclosing]; decide)]
  rw [marked_append, atFront?, hname, hrest, if_neg h.nonempty]
  rfl

/-- **A placeholder stands at the front exactly if the text begins with a name between markers.** -/
theorem atFront?_eq_some_iff : atFront? cs = some (n, s) ↔ IsName n ∧ cs = marked n ++ s := by
  constructor
  · intro h
    unfold atFront? at h
    split at h
    · next rest =>
      dsimp only at h
      split at h
      · cases h
      · next hne =>
        obtain ⟨after, hafter, heq⟩ := Option.map_eq_some_iff.1 h
        cases heq
        have hplain : ∀ c ∈ rest.takeWhile isNameChar, c ≠ '@' ∧ c ≠ '{' ∧ c ≠ '}' :=
          fun c hc => isNameChar_iff.1 (List.all_eq_true.1 List.all_takeWhile c hc)
        refine ⟨⟨hne, hplain⟩, ?_⟩
        rw [marked_append, ← afterClosing?_eq_some_iff.1 hafter, List.takeWhile_append_dropWhile]
    · cases h
  · rintro ⟨hname, rfl⟩
    exact atFront?_marked hname s

/-- No opening brace stands behind the first sign of a placeholder. -/
theorem IsName.brace_not_mem (h : IsName n) : '{' ∉ (marked n).tail := by
  intro hmem
  rcases List.mem_cons.1 hmem with hopening | hmem
  · exact absurd hopening (by decide)
  · rcases List.mem_append.1 hmem with hname | hclosing
    · exact (h.plain '{' hname).2.1 rfl
    · exact absurd hclosing (by decide)

/-- A placeholder that begins in front of an opening brace ends in front of it. -/
theorem IsName.ends_before (h : IsName n) (hp : p ≠ []) (heq : p ++ '{' :: cs = marked n ++ s) :
    ∃ r, p = marked n ++ r := by
  rcases List.append_eq_append_iff.1 heq with ⟨middle, hmarked, hrest⟩ | ⟨r, hfront, -⟩
  · cases middle with
    | nil => exact ⟨[], by rw [hmarked, List.append_nil, List.append_nil]⟩
    | cons c middle =>
      -- here the brace would lie inside the placeholder
      rw [List.cons_append] at hrest
      obtain rfl := (List.cons.inj hrest).1
      obtain ⟨first, front, rfl⟩ := List.exists_cons_of_ne_nil hp
      refine absurd ?_ h.brace_not_mem
      rw [hmarked]
      exact List.mem_append_right front List.mem_cons_self
  · exact ⟨r, hfront⟩

/-- So what stands at the front of a text does not depend on what follows an opening brace. -/
theorem atFront?_append_brace (hp : p ≠ []) (cs : List Char) :
    atFront? (p ++ '{' :: cs) = (atFront? p).map fun found => (found.1, found.2 ++ '{' :: cs) := by
  cases hfront : atFront? p with
  | some found =>
    obtain ⟨hname, hmarked⟩ := atFront?_eq_some_iff.1 hfront
    refine atFront?_eq_some_iff.2 ⟨hname, ?_⟩
    rw [hmarked, List.append_assoc]
  | none =>
    cases hwhole : atFront? (p ++ '{' :: cs) with
    | none => rfl
    | some found =>
      obtain ⟨hname, hmarked⟩ := atFront?_eq_some_iff.1 hwhole
      obtain ⟨r, hr⟩ := hname.ends_before hp hmarked
      cases hfront.symm.trans (atFront?_eq_some_iff.2 ⟨hname, hr⟩)

/-! ## In a text -/

theorem pieces_cons_of_found {c : Char} (h : atFront? (c :: cs) = some (n, s)) :
    pieces (c :: cs) = .reference (String.ofList (Text.trim n)) :: pieces s := by
  rw [pieces]
  split
  · next heq => cases h.symm.trans heq; rfl
  · next heq => cases h.symm.trans heq

theorem pieces_cons_of_none {c : Char} (h : atFront? (c :: cs) = none) :
    pieces (c :: cs) = .literal c :: pieces cs := by
  rw [pieces]
  split
  · next heq => cases h.symm.trans heq
  · rfl

/-- **A text is cut in front of any opening brace.** Induction on the scan of what stands before it. -/
theorem pieces_append_brace (p cs : List Char) :
    pieces (p ++ '{' :: cs) = pieces p ++ pieces ('{' :: cs) := by
  fun_induction pieces p with
  | case1 => rfl
  | case2 c rest name after hfront _ ih =>
    have hwhole := atFront?_append_brace (List.cons_ne_nil c rest) cs
    rw [hfront] at hwhole
    rw [List.cons_append] at hwhole ⊢
    rw [pieces_cons_of_found hwhole, ih, List.cons_append]
  | case3 c rest hfront ih =>
    have hwhole := atFront?_append_brace (List.cons_ne_nil c rest) cs
    rw [hfront] at hwhole
    rw [List.cons_append] at hwhole ⊢
    rw [pieces_cons_of_none hwhole, ih, List.cons_append]

/-- **A name between markers is a placeholder, whatever stands before and behind it.** -/
theorem pieces_append_marked (p : List Char) (h : IsName n) (s : List Char) :
    pieces (p ++ (marked n ++ s)) =
      pieces p ++ .reference (String.ofList (Text.trim n)) :: pieces s := by
  have hfront := atFront?_marked h s
  rw [marked_append] at hfront ⊢
  rw [pieces_append_brace, pieces_cons_of_found hfront]

/-- A text that refers to nothing has no placeholder in it, and the other way round. Where the scan
finds one, it splits the text there. -/
theorem referenced_eq_nil_iff {text : String} :
    referenced text = [] ↔ ∀ p n s, IsName n → text.toList ≠ p ++ (marked n ++ s) := by
  unfold referenced
  generalize text.toList = cs
  constructor
  · intro hnone p n s hname heq
    rw [heq, pieces_append_marked p hname s, List.filterMap_append] at hnone
    cases (List.append_eq_nil_iff.1 hnone).2
  · fun_induction pieces cs with
    | case1 => exact fun _ => rfl
    | case2 c rest name after hfront _ _ =>
      intro hnowhere
      obtain ⟨hname, heq⟩ := atFront?_eq_some_iff.1 hfront
      exact absurd heq (hnowhere [] name after hname)
    | case3 c rest _ ih =>
      intro hnowhere
      refine ih fun p n s hname heq => hnowhere (c :: p) n s hname ?_
      rw [heq, List.cons_append]

end Placeholder

namespace Bindings

variable {b : Bindings}

/-! ## Filling in -/

/-- The text that stands for a variable, which has to be bound. -/
def valueText (b : Bindings) (name : String) : Except BindingError String :=
  match OrderedMap.get? b name with
  | some value => .ok value.display
  | none => .error (.unbound name)

theorem fill_reference (b : Bindings) (name : String) :
    b.fill (.reference name) = (b.valueText name).map String.toList := by
  unfold fill text? valueText
  dsimp only
  cases OrderedMap.get? b name <;> rfl

/-- Pieces are filled in from the first to the last. Induction on those in front. -/
theorem fillAll_append (b : Bindings) (front back : List Placeholder.Piece) :
    b.fillAll (front ++ back) = (do
      let before ← b.fillAll front
      let behind ← b.fillAll back
      .ok (before ++ behind)) := by
  induction front with
  | nil =>
    rw [List.nil_append]
    cases b.fillAll back <;> rfl
  | cons piece rest ih =>
    rw [List.cons_append, fillAll, fillAll, ih]
    cases b.fill piece with
    | error e => rfl
    | ok text =>
      cases b.fillAll rest with
      | error e => rfl
      | ok before =>
        cases b.fillAll back with
        | error e => rfl
        | ok behind => exact congrArg Except.ok (List.append_assoc text before behind).symm

theorem toList_placeholder (p n s : String) :
    (p ++ Placeholder.opening ++ n ++ Placeholder.closing ++ s).toList =
      p.toList ++ (Placeholder.marked n.toList ++ s.toList) := by
  have hopening : Placeholder.opening.toList = ['{', '@'] := by decide
  have hclosing : Placeholder.closing.toList = ['@', '}'] := by decide
  simp only [String.toList_append, hopening, hclosing, Placeholder.marked, List.append_assoc,
    List.cons_append, List.nil_append]

/-- **Filling in is settled by where the placeholders stand.** A name between markers gives way to the
text of its variable, as it is, whatever surrounds it: what stands before and behind is filled in as if
it stood alone, and the first of the three that fails is the failure of the whole. A text without a name
between markers stays as it is, stray markers and all. -/
theorem substitute_placeholder (b : Bindings) :
    (∀ p n s : String, Placeholder.IsName n.toList →
      b.substitute (p ++ Placeholder.opening ++ n ++ Placeholder.closing ++ s) = do
        let before ← b.substitute p
        let value ← b.valueText (Text.trimmed n)
        let behind ← b.substitute s
        .ok (before ++ value ++ behind))
    ∧ ∀ text : String,
        (∀ p n s : String, Placeholder.IsName n.toList →
          text ≠ p ++ Placeholder.opening ++ n ++ Placeholder.closing ++ s) →
        b.substitute text = .ok text := by
  constructor
  · intro p n s hname
    have hpieces := Placeholder.pieces_append_marked p.toList hname s.toList
    unfold substitute
    rw [toList_placeholder, hpieces, fillAll_append]
    unfold Text.trimmed
    cases b.fillAll (Placeholder.pieces p.toList) with
    | error e => rfl
    | ok before =>
      dsimp only [bind, Except.bind]
      rw [fillAll, fill_reference]
      cases b.valueText (String.ofList (Text.trim n.toList)) with
      | error e => rfl
      | ok value =>
        cases b.fillAll (Placeholder.pieces s.toList) with
        | error e => rfl
        | ok behind =>
          refine congrArg Except.ok ?_
          show String.ofList (before ++ (value.toList ++ behind)) = _
          rw [String.append_assoc, String.ofList_append, String.ofList_append, String.ofList_toList]
  · intro text hnowhere
    refine substitute_of_literal b (Placeholder.referenced_eq_nil_iff.2 ?_)
    intro p n s hname heq
    -- a place in the characters of the text is one in the text itself
    refine hnowhere (String.ofList p) (String.ofList n) (String.ofList s) ?_ ?_
    · rw [String.toList_ofList]
      exact hname
    · rw [← String.toList_inj, toList_placeholder, heq, String.toList_ofList, String.toList_ofList,
        String.toList_ofList]

/-- A variable whose value looks like a placeholder. -/
def nested : Bindings :=
  [("x", .string (Placeholder.opening ++ "x" ++ Placeholder.closing))]

/-- Of two pairs of markers only the inner one counts, and what is put in between the outer ones is not
looked at again. Where no name stands between markers, they stay. -/
theorem substitute_nested :
    Placeholder.IsName "x".toList
    ∧ nested.substitute (Placeholder.opening ++ Placeholder.opening ++ "x" ++ Placeholder.closing ++
        Placeholder.closing) =
      .ok (Placeholder.opening ++ Placeholder.opening ++ "x" ++ Placeholder.closing ++
        Placeholder.closing)
    ∧ (∀ p n s : String, Placeholder.IsName n.toList →
        Placeholder.opening ++ "a@" ++ Placeholder.opening ++ Placeholder.closing ≠
          p ++ Placeholder.opening ++ n ++ Placeholder.closing ++ s)
    ∧ nested.substitute (Placeholder.opening ++ "a@" ++ Placeholder.opening ++ Placeholder.closing) =
      .ok (Placeholder.opening ++ "a@" ++ Placeholder.opening ++ Placeholder.closing) := by
  have hname : Placeholder.IsName "x".toList := by
    rw [show "x".toList = ['x'] from rfl]
    exact ⟨nofun, List.forall_mem_singleton.2 (by decide)⟩
  have hnowhere : ∀ p n s : String, Placeholder.IsName n.toList →
      Placeholder.opening ++ "a@" ++ Placeholder.opening ++ Placeholder.closing ≠
        p ++ Placeholder.opening ++ n ++ Placeholder.closing ++ s := by
    intro p n s hname heq
    have hnone : Placeholder.referenced
        (Placeholder.opening ++ "a@" ++ Placeholder.opening ++ Placeholder.closing) = [] := by
      decide +kernel
    refine Placeholder.referenced_eq_nil_iff.1 hnone p.toList n.toList s.toList hname ?_
    rw [heq, toList_placeholder]
  refine ⟨hname, ?_, hnowhere, (substitute_placeholder nested).2 _ hnowhere⟩
  rw [(substitute_placeholder nested).1 Placeholder.opening "x" Placeholder.closing hname]
  decide +kernel

end Bindings

end RestSuite
