import RestSuite.Proofs.Placeholder

/-!
# Filling in the leaves of a value

The placeholders of a body are filled in on its compact text, where markers stand between the braces,
quotes and escapes of the format. What this comes to is said of the value itself: the strings in it are
filled in one by one, and everything else stays.

* **`Bindings.fillLeaves`** — a value with its strings filled in, each by itself.
* **`Bindings.FitsLeaf`**, **`Bindings.Fits`** — the strings whose placeholders the format leaves alone.
* **`Bindings.Fills`** — what a part of a text comes to, whatever follows it.
* **`Bindings.fills_quoted`** — a string between quotes is filled in as if it stood alone.
* **`Bindings.fills_compact`** — so the text of a value is filled in leaf by leaf.
-/

namespace RestSuite

/-- The character stands between quotes as it is. -/
def Json.IsBare (c : Char) : Prop :=
  c ≠ '"' ∧ c ≠ '\\' ∧ 0x20 ≤ c.toNat

instance (c : Char) : Decidable (Json.IsBare c) :=
  inferInstanceAs (Decidable (_ ∧ _ ∧ _))

namespace Bindings

/-! ## The value that is meant -/

mutual

/-- A value in which every string is filled in by itself. Names of members stay as they are. -/
def fillLeaves (b : Bindings) : Json → Except BindingError Json
  | .string s => (b.substitute s).map .string
  | .array items => (fillItems b items).map .array
  | .object members => (fillMembers b members).map .object
  | .null => .ok .null
  | .bool value => .ok (.bool value)
  | .number value => .ok (.number value)

/-- Items, one after the other. -/
def fillItems (b : Bindings) : List Json → Except BindingError (List Json)
  | [] => .ok []
  | item :: rest => do
    let item ← fillLeaves b item
    let rest ← fillItems b rest
    .ok (item :: rest)

/-- Members, one after the other. -/
def fillMembers (b : Bindings) : List (String × Json) → Except BindingError (List (String × Json))
  | [] => .ok []
  | (name, value) :: rest => do
    let value ← fillLeaves b value
    let rest ← fillMembers b rest
    .ok ((name, value) :: rest)

end

/-- A string whose placeholders survive between quotes: every marker begins one, and neither its name
nor the text of its variable has a character that is written in another way there. -/
structure FitsLeaf (b : Bindings) (cs : List Char) : Prop where
  closed : ∀ p s, cs = p ++ '{' :: '@' :: s →
    ∃ n r, Placeholder.IsName n ∧ (∀ c ∈ n, Json.IsBare c) ∧ s = n ++ '@' :: '}' :: r
  bound : ∀ name ∈ (Placeholder.pieces cs).filterMap Placeholder.Piece.name?,
    ∃ text, b.text? name = some text ∧ ∀ c ∈ text.toList, Json.IsBare c

mutual

/-- All strings in the value fit, and no name of a member holds a marker. -/
def Fits (b : Bindings) : Json → Prop
  | .string s => FitsLeaf b s.toList
  | .array items => FitsItems b items
  | .object members => FitsMembers b members
  | _ => True

/-- `Fits` of every item. -/
def FitsItems (b : Bindings) : List Json → Prop
  | [] => True
  | item :: rest => Fits b item ∧ FitsItems b rest

/-- `Fits` of every member. -/
def FitsMembers (b : Bindings) : List (String × Json) → Prop
  | [] => True
  | (name, value) :: rest =>
    ¬ ['{', '@'] <:+: name.toList ∧ Fits b value ∧ FitsMembers b rest

end

/-! ## Parts of a text -/

variable {b : Bindings} {cs ds out more t : List Char}

/-- A part of a text is filled in as `out`, and what follows it as if it stood alone. -/
def Fills (b : Bindings) (cs out : List Char) : Prop :=
  ∀ t, b.fillAll (Placeholder.pieces (cs ++ t)) =
    (b.fillAll (Placeholder.pieces t)).map (out ++ ·)

theorem Fills.append (h : b.Fills cs out) (h' : b.Fills ds more) :
    b.Fills (cs ++ ds) (out ++ more) := by
  intro t
  rw [List.append_assoc, h, h']
  cases b.fillAll (Placeholder.pieces t) with
  | error e => rfl
  | ok rest => simp [Except.map]

theorem atFront?_of_ne_brace {c : Char} (h : c ≠ '{') : Placeholder.atFront? (c :: cs) = none := by
  unfold Placeholder.atFront?
  split
  · next heq => cases heq; exact absurd rfl h
  · rfl

theorem atFront?_brace {d : Char} (h : d ≠ '@') : Placeholder.atFront? ('{' :: d :: cs) = none := by
  unfold Placeholder.atFront?
  split
  · next heq => cases heq; exact absurd rfl h
  · rfl

theorem fillAll_literal_cons {c : Char} (h : Placeholder.atFront? (c :: t) = none) :
    b.fillAll (Placeholder.pieces (c :: t)) =
      (b.fillAll (Placeholder.pieces t)).map (c :: ·) := by
  rw [Placeholder.pieces_cons_of_none h, fillAll]
  cases b.fillAll (Placeholder.pieces t) <;> rfl

theorem pieces_marked {n : List Char} (h : Placeholder.IsName n) (t : List Char) :
    Placeholder.pieces (Placeholder.marked n ++ t) =
      .reference (String.ofList (Text.trim n)) :: Placeholder.pieces t := by
  have hfront := Placeholder.atFront?_marked h t
  rw [Placeholder.marked_append] at hfront ⊢
  exact Placeholder.pieces_cons_of_found hfront

theorem pieces_append_of_no_brace (h : '{' ∉ cs) (t : List Char) :
    Placeholder.pieces (cs ++ t) = cs.map .literal ++ Placeholder.pieces t := by
  induction cs with
  | nil => rfl
  | cons c rest ih =>
    obtain ⟨hc, hrest⟩ := List.ne_and_not_mem_of_not_mem_cons h
    rw [List.cons_append, Placeholder.pieces_cons_of_none (atFront?_of_ne_brace (Ne.symm hc)),
      ih hrest, List.map_cons, List.cons_append]

/-- Without an opening brace nothing is filled in. -/
theorem fills_of_no_brace (h : '{' ∉ cs) : b.Fills cs cs := by
  intro t
  rw [pieces_append_of_no_brace h, fillAll_append, fillAll_literal]
  cases b.fillAll (Placeholder.pieces t) <;> rfl

/-- A brace that opens an object begins no placeholder: a quote or the closing brace follows it. -/
theorem fills_open {d : Char} (hd : d ≠ '@') (h : b.Fills (d :: cs) out) :
    b.Fills ('{' :: d :: cs) ('{' :: out) := by
  intro t
  have hnone : Placeholder.atFront? ('{' :: d :: (cs ++ t)) = none := atFront?_brace hd
  rw [List.cons_append, List.cons_append, fillAll_literal_cons hnone, ← List.cons_append, h t]
  cases b.fillAll (Placeholder.pieces t) <;> rfl

/-! ## Strings between quotes -/

theorem escaped_of_isBare {c : Char} (h : Json.IsBare c) : Json.escaped c = [c] := by
  obtain ⟨hquote, hbackslash, hcontrol⟩ := h
  have hne : ∀ d : Char, d.toNat < 0x20 → c ≠ d := by
    rintro d hd rfl
    omega
  unfold Json.escaped
  rw [if_neg hquote, if_neg hbackslash, if_neg (hne _ (by decide)), if_neg (hne _ (by decide)),
    if_neg (hne _ (by decide)), if_neg (hne _ (by decide)), if_neg (hne _ (by decide)),
    if_neg (by omega)]

theorem flatMap_escaped_of_isBare (h : ∀ c ∈ cs, Json.IsBare c) : cs.flatMap Json.escaped = cs := by
  induction cs with
  | nil => rfl
  | cons c rest ih =>
    obtain ⟨hc, hrest⟩ := List.forall_mem_cons.1 h
    rw [List.flatMap_cons, escaped_of_isBare hc, ih hrest]
    rfl

theorem hexDigit_ne_brace (n : Nat) (h : n < 16) : Json.hexDigit n ≠ '{' := by
  revert n
  decide

/-- Escapes hold no brace, so they make no marker. -/
theorem brace_not_mem_escaped {c : Char} (h : c ≠ '{') : '{' ∉ Json.escaped c := by
  unfold Json.escaped
  repeat' split
  all_goals try decide
  · next hcontrol =>
    have hhigh := hexDigit_ne_brace (c.toNat / 16) (by omega)
    have hlow := hexDigit_ne_brace (c.toNat % 16) (by omega)
    simp [Ne.symm hhigh, Ne.symm hlow]
  · simp [Ne.symm h]

/-- Nor does an escape begin with the second sign of a marker. -/
theorem escaped_cons {c : Char} : ∃ d r, Json.escaped c = d :: r ∧ (d = '@' → c = '@') := by
  unfold Json.escaped
  repeat' split
  all_goals first
    | exact ⟨_, _, rfl, fun h => absurd h (by decide)⟩
    | exact ⟨_, _, rfl, id⟩

/-- A character that begins no marker is written out by itself. What comes behind it is either the rest
of its string or the quote. -/
theorem fillAll_escaped {c : Char} (rest : List Char)
    (h : ∀ s, c :: rest ≠ '{' :: '@' :: s) :
    b.fillAll (Placeholder.pieces (Json.escaped c ++ (rest.flatMap Json.escaped ++ '"' :: t))) =
      (b.fillAll (Placeholder.pieces (rest.flatMap Json.escaped ++ '"' :: t))).map
        (Json.escaped c ++ ·) := by
  by_cases hc : c = '{'
  · subst hc
    have hbare : Json.escaped '{' = ['{'] := escaped_of_isBare (by decide)
    have hnone : Placeholder.atFront? ('{' :: (rest.flatMap Json.escaped ++ '"' :: t)) = none := by
      cases rest with
      | nil => exact atFront?_brace (by decide)
      | cons c' rest =>
        obtain ⟨d, r, hd, hsign⟩ := @escaped_cons c'
        rw [List.flatMap_cons, hd]
        refine atFront?_brace fun hat => h rest ?_
        rw [hsign hat]
    rw [hbare]
    exact fillAll_literal_cons hnone
  · exact fills_of_no_brace (brace_not_mem_escaped hc) _

/-! A string that fits either begins with a placeholder or with a character that begins no marker. -/

theorem FitsLeaf.marked_inv {n after : List Char} (hname : Placeholder.IsName n)
    (h : b.FitsLeaf (Placeholder.marked n ++ after)) :
    (∀ c ∈ n, Json.IsBare c)
    ∧ (∃ text, b.text? (String.ofList (Text.trim n)) = some text ∧ ∀ c ∈ text.toList, Json.IsBare c)
    ∧ b.FitsLeaf after := by
  obtain ⟨hclosed, hbound⟩ := h
  rw [pieces_marked hname, List.filterMap_cons_some (by rfl), List.forall_mem_cons] at hbound
  refine ⟨?_, hbound.1, fun p s hs => hclosed (Placeholder.marked n ++ p) s ?_, hbound.2⟩
  · -- the marker at the front begins one placeholder only
    obtain ⟨n', r, hname', hbare, hr⟩ :=
      hclosed [] (n ++ '@' :: '}' :: after) (Placeholder.marked_append n after)
    have hsame : Placeholder.atFront? (Placeholder.marked n ++ after) = some (n', r) := by
      rw [Placeholder.marked_append, hr, ← Placeholder.marked_append]
      exact Placeholder.atFront?_marked hname' r
    rw [Placeholder.atFront?_marked hname after] at hsame
    cases hsame
    exact hbare
  · rw [hs, List.append_assoc]

theorem FitsLeaf.literal_inv {c : Char} {rest : List Char}
    (hfront : Placeholder.atFront? (c :: rest) = none) (h : b.FitsLeaf (c :: rest)) :
    (∀ s, c :: rest ≠ '{' :: '@' :: s) ∧ b.FitsLeaf rest := by
  obtain ⟨hclosed, hbound⟩ := h
  rw [Placeholder.pieces_cons_of_none hfront, List.filterMap_cons_none (by rfl)] at hbound
  refine ⟨fun s hs => ?_, fun p s hs => hclosed (c :: p) s (congrArg (c :: ·) hs), hbound⟩
  obtain ⟨n, r, hname, -, hr⟩ := hclosed [] s hs
  have hfound := Placeholder.atFront?_marked hname r
  rw [Placeholder.marked_append, ← hr, ← hs, hfront] at hfound
  cases hfound

theorem referenced_of_no_marker (h : ¬ ['{', '@'] <:+: cs) :
    Placeholder.referenced (String.ofList cs) = [] := by
  refine Placeholder.referenced_eq_nil_iff.2 fun p n s _ heq => h ?_
  rw [String.toList_ofList, Placeholder.marked_append] at heq
  exact ⟨p, n ++ '@' :: '}' :: s, by simp [heq]⟩

theorem fitsLeaf_of_no_marker (b : Bindings) (h : ¬ ['{', '@'] <:+: cs) : b.FitsLeaf cs := by
  refine ⟨fun p s hs => absurd ⟨p, s, by simp [hs]⟩ h, ?_⟩
  have hnone := referenced_of_no_marker h
  unfold Placeholder.referenced at hnone
  rw [String.toList_ofList] at hnone
  simp [hnone]

theorem FitsLeaf.append (h : b.FitsLeaf ds) (hcs : '{' ∉ cs) : b.FitsLeaf (cs ++ ds) := by
  refine ⟨fun p s hs => ?_, ?_⟩
  · rcases List.append_eq_append_iff.1 hs with ⟨q, rfl, hq⟩ | ⟨q, rfl, hq⟩
    · exact h.closed q s hq
    · cases q with
      | nil => exact h.closed [] s hq.symm
      | cons c q =>
        obtain ⟨rfl, -⟩ := List.cons.inj hq
        simp at hcs
  · rw [pieces_append_of_no_brace hcs, List.filterMap_append]
    have hnone : (cs.map Placeholder.Piece.literal).filterMap Placeholder.Piece.name? = [] := by
      simp [Placeholder.Piece.name?]
    rw [hnone]
    exact h.bound

theorem FitsLeaf.marked {n : List Char} {text : String} (hname : Placeholder.IsName n)
    (hbare : ∀ c ∈ n, Json.IsBare c) (htext : b.text? (String.ofList (Text.trim n)) = some text)
    (hvalue : ∀ c ∈ text.toList, Json.IsBare c) (h : b.FitsLeaf ds) :
    b.FitsLeaf (Placeholder.marked n ++ ds) := by
  refine ⟨fun p s hs => ?_, ?_⟩
  · rcases List.append_eq_append_iff.1 hs with ⟨q, rfl, hq⟩ | ⟨q, hmarked, hq⟩
    · exact h.closed q s hq
    · cases p with
      | nil =>
        -- at the front stands the placeholder itself
        rw [List.nil_append, Placeholder.marked_append] at hs
        cases hs
        exact ⟨n, ds, hname, hbare, rfl⟩
      | cons c p =>
        -- behind that no brace stands in it
        cases q with
        | nil => exact h.closed [] s hq.symm
        | cons d q =>
          obtain ⟨rfl, -⟩ := List.cons.inj hq
          refine absurd ?_ hname.brace_not_mem
          rw [hmarked]
          simp
  · rw [pieces_marked hname, List.filterMap_cons_some (by rfl), List.forall_mem_cons]
    exact ⟨⟨text, htext, hvalue⟩, h.bound⟩

theorem flatMap_escaped_marked {n : List Char} (h : ∀ c ∈ n, Json.IsBare c) :
    (Placeholder.marked n).flatMap Json.escaped = Placeholder.marked n := by
  refine flatMap_escaped_of_isBare fun c hc => ?_
  simp only [Placeholder.marked, List.mem_cons, List.mem_append, List.not_mem_nil, or_false] at hc
  rcases hc with rfl | rfl | hc | rfl | rfl
  case inr.inr.inl => exact h c hc
  all_goals decide

/-- **A string is filled in between quotes as it is alone.** Induction on the scan of the string. -/
theorem fillAll_leaf (h : b.FitsLeaf cs) (t : List Char) :
    ∃ out, b.fillAll (Placeholder.pieces cs) = .ok out
      ∧ b.fillAll (Placeholder.pieces (cs.flatMap Json.escaped ++ '"' :: t)) =
        (b.fillAll (Placeholder.pieces ('"' :: t))).map (out.flatMap Json.escaped ++ ·) := by
  fun_induction Placeholder.pieces cs with
  | case1 =>
    refine ⟨[], rfl, ?_⟩
    show b.fillAll (Placeholder.pieces ('"' :: t)) = _
    cases b.fillAll (Placeholder.pieces ('"' :: t)) <;> rfl
  | case2 c rest n after hfront _ ih =>
    obtain ⟨hname, heq⟩ := Placeholder.atFront?_eq_some_iff.1 hfront
    rw [heq] at h ⊢
    obtain ⟨hbare, ⟨text, htext, hvalue⟩, hafter⟩ := h.marked_inv hname
    obtain ⟨out, hout, hquoted⟩ := ih hafter
    have hfill : b.fill (.reference (String.ofList (Text.trim n))) = .ok text.toList := by
      simp [fill, htext]
    refine ⟨text.toList ++ out, by rw [fillAll, hfill, hout]; rfl, ?_⟩
    rw [List.flatMap_append, flatMap_escaped_marked hbare, List.append_assoc, pieces_marked hname,
      fillAll, hfill, hquoted, List.flatMap_append, flatMap_escaped_of_isBare hvalue]
    cases b.fillAll (Placeholder.pieces ('"' :: t)) with
    | error e => rfl
    | ok more => simp [Except.map, bind, Except.bind]
  | case3 c rest hfront ih =>
    obtain ⟨hno, hrest⟩ := h.literal_inv hfront
    obtain ⟨out, hout, hquoted⟩ := ih hrest
    refine ⟨c :: out, by rw [fillAll, hout]; rfl, ?_⟩
    rw [List.flatMap_cons, List.append_assoc, fillAll_escaped rest hno, hquoted, List.flatMap_cons]
    cases b.fillAll (Placeholder.pieces ('"' :: t)) with
    | error e => rfl
    | ok more => simp [Except.map]

/-- **A string between quotes is filled in as if it stood alone**, whatever follows it. -/
theorem fills_quoted {s : String} (h : b.FitsLeaf s.toList) :
    ∃ filled, b.substitute s = .ok filled ∧ b.Fills (Json.quoted s) (Json.quoted filled) := by
  obtain ⟨out, hout, -⟩ := fillAll_leaf h []
  refine ⟨String.ofList out, by rw [substitute, hout]; rfl, fun t => ?_⟩
  obtain ⟨out', hout', hleaf⟩ := fillAll_leaf h t
  cases hout.symm.trans hout'
  have hquote : b.Fills ['"'] ['"'] := fills_of_no_brace (by decide)
  have hback := hquote t
  unfold Json.quoted
  rw [String.toList_ofList]
  simp only [List.cons_append, List.append_assoc, List.nil_append] at hback ⊢
  rw [fillAll_literal_cons (atFront?_of_ne_brace (by decide)), hleaf, hback]
  cases b.fillAll (Placeholder.pieces t) with
  | error e => rfl
  | ok rest => simp [Except.map]

/-- A name without a marker stays as it is. -/
theorem fills_name {name : String} (h : ¬ ['{', '@'] <:+: name.toList) :
    b.Fills (Json.quoted name) (Json.quoted name) := by
  have hnone := referenced_of_no_marker h
  rw [String.ofList_toList] at hnone
  obtain ⟨filled, hfilled, hquoted⟩ := fills_quoted (fitsLeaf_of_no_marker b h)
  cases (substitute_of_literal b hnone).symm.trans hfilled
  exact hquoted

/-! ## Numbers -/

theorem digitChar_ne_brace (n : Nat) : Nat.digitChar n ≠ '{' := by
  by_cases h : n < 16
  · revert n
    decide
  · unfold Nat.digitChar
    iterate 16 rw [if_neg (by omega)]
    decide

theorem brace_not_mem_toDigits (n : Nat) : '{' ∉ Nat.toDigits 10 n := by
  intro hmem
  have hdigit := Nat.isDigit_of_mem_toDigits (by omega) (by omega) hmem
  exact absurd hdigit (by decide)

theorem brace_not_mem_pointed {digits : List Char} (h : '{' ∉ digits) (whole : Int) :
    '{' ∉ Json.pointed digits whole := by
  unfold Json.pointed
  split
  · next n =>
    have hfront : '{' ∉ digits.take n := fun hmem => h (List.mem_of_mem_take hmem)
    have hback : '{' ∉ digits.drop n := fun hmem => h (List.mem_of_mem_drop hmem)
    split_ifs <;> simp [h, hfront, hback]
  · simp [h]

theorem brace_not_mem_withExponent {digits : List Char} (h : '{' ∉ digits) (exponent : Int) :
    '{' ∉ Json.withExponent digits exponent := by
  have hexponent := brace_not_mem_toDigits exponent.natAbs
  unfold Json.withExponent Json.decimal
  dsimp only
  split <;> split_ifs <;> simp_all

theorem brace_not_mem_floatText (x : Float) : '{' ∉ Json.floatText x := by
  have hdigits : ∀ ns : List Nat, '{' ∉ ns.map Nat.digitChar := by
    intro ns hmem
    obtain ⟨n, -, hn⟩ := List.mem_map.1 hmem
    exact digitChar_ne_brace n hn
  unfold Json.floatText
  dsimp only
  split_ifs
  all_goals simp [brace_not_mem_pointed (hdigits _), brace_not_mem_withExponent (hdigits _)]

theorem brace_not_mem_numberText (n : Number) : '{' ∉ Json.numberText n := by
  unfold Json.numberText Json.decimal
  split
  · exact brace_not_mem_toDigits _
  · simp [brace_not_mem_toDigits]
  · exact brace_not_mem_floatText _

/-! ## Whole values -/

mutual

/-- **The text of a value that fits is filled in leaf by leaf**, whatever follows it. -/
theorem fills_compact : (v : Json) → b.Fits v →
    ∃ filled, b.fillLeaves v = .ok filled ∧ b.Fills v.compact filled.compact
  | .null, _ => ⟨.null, rfl, fills_of_no_brace (by decide)⟩
  | .bool true, _ => ⟨.bool true, rfl, fills_of_no_brace (by decide)⟩
  | .bool false, _ => ⟨.bool false, rfl, fills_of_no_brace (by decide)⟩
  | .number n, _ => ⟨.number n, rfl, fills_of_no_brace (brace_not_mem_numberText n)⟩
  | .string s, h => by
    obtain ⟨filled, hfilled, hquoted⟩ := fills_quoted h
    exact ⟨.string filled, by rw [fillLeaves, hfilled]; rfl, hquoted⟩
  | .array [], _ => ⟨.array [], rfl, fills_of_no_brace (by decide)⟩
  | .array (item :: rest), h => by
    obtain ⟨filled, hfilled, hitem⟩ := fills_compact item h.1
    obtain ⟨more, hmore, hrest⟩ := fills_compactItems rest h.2
    have hopen : b.Fills ['['] ['['] := fills_of_no_brace (by decide)
    refine ⟨.array (filled :: more), ?_, ?_⟩
    · rw [fillLeaves, fillItems, hfilled, hmore]
      rfl
    · simpa [Json.compact] using (hopen.append hitem).append hrest
  | .object [], _ => ⟨.object [], rfl, fills_open (by decide) (fills_of_no_brace (by decide))⟩
  | .object ((name, value) :: rest), h => by
    obtain ⟨hname, hvalue, hmembers⟩ := h
    obtain ⟨filled, hfilled, hvalue⟩ := fills_compact value hvalue
    obtain ⟨more, hmore, hrest⟩ := fills_compactMembers rest hmembers
    have hopen : b.Fills ('{' :: Json.quoted name) ('{' :: Json.quoted name) :=
      fills_open (by decide) (fills_name hname)
    have hcolon : b.Fills [':'] [':'] := fills_of_no_brace (by decide)
    refine ⟨.object ((name, filled) :: more), ?_, ?_⟩
    · rw [fillLeaves, fillMembers, hfilled, hmore]
      rfl
    · simpa [Json.compact] using ((hopen.append hcolon).append hvalue).append hrest

theorem fills_compactItems : (items : List Json) → b.FitsItems items →
    ∃ filled, b.fillItems items = .ok filled
      ∧ b.Fills (Json.compactItems items) (Json.compactItems filled)
  | [], _ => ⟨[], rfl, fills_of_no_brace (by decide)⟩
  | item :: rest, h => by
    obtain ⟨filled, hfilled, hitem⟩ := fills_compact item h.1
    obtain ⟨more, hmore, hrest⟩ := fills_compactItems rest h.2
    have hcomma : b.Fills [','] [','] := fills_of_no_brace (by decide)
    refine ⟨filled :: more, ?_, ?_⟩
    · rw [fillItems, hfilled, hmore]
      rfl
    · simpa [Json.compactItems] using (hcomma.append hitem).append hrest

theorem fills_compactMembers : (members : List (String × Json)) → b.FitsMembers members →
    ∃ filled, b.fillMembers members = .ok filled
      ∧ b.Fills (Json.compactMembers members) (Json.compactMembers filled)
  | [], _ => ⟨[], rfl, fills_of_no_brace (by decide)⟩
  | (name, value) :: rest, h => by
    obtain ⟨hname, hvalue, hmembers⟩ := h
    obtain ⟨filled, hfilled, hvalue⟩ := fills_compact value hvalue
    obtain ⟨more, hmore, hrest⟩ := fills_compactMembers rest hmembers
    have hcomma : b.Fills [','] [','] := fills_of_no_brace (by decide)
    have hcolon : b.Fills [':'] [':'] := fills_of_no_brace (by decide)
    refine ⟨(name, filled) :: more, ?_, ?_⟩
    · rw [fillMembers, hfilled, hmore]
      rfl
    · simpa [Json.compactMembers] using
        (((hcomma.append (fills_name hname)).append hcolon).append hvalue).append hrest

end

/-- The compact text of a value is filled in to the compact text of the value that is meant. -/
theorem substitute_text {v : Json} (h : b.Fits v) :
    ∃ filled, b.fillLeaves v = .ok filled ∧ b.substitute v.text = .ok filled.text := by
  obtain ⟨filled, hfilled, htext⟩ := fills_compact v h
  refine ⟨filled, hfilled, ?_⟩
  have hwhole := htext []
  rw [List.append_nil] at hwhole
  simp only [substitute, Json.text, String.toList_ofList, hwhole]
  simp [Placeholder.pieces, fillAll, Except.map, bind, Except.bind]

end Bindings

end RestSuite
