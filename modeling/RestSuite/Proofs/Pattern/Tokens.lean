import RestSuite.Proofs.Pattern.Locality

/-!
# Escapes and classes and what follows

What stands behind a backslash or between brackets is read by many small readers. None of them takes the
end of a group for a part of what it reads, unless it runs out of text before: then the text alone is
refused. A class is read item by item, so that its reader agrees with itself because one item does.

* **`local_readEscape`** — escapes do not depend on what follows.
* **`local_readClassItem`**, **`local_classStep_cons`** — one item of a class does not.
* **`local_readClass`** — a class does not.
-/

namespace RestSuite.Pattern

variable {α β : Type} {f : Flags} {cs : List Char}

/-! ## Escapes -/

theorem untilBrace_suffix {b : Bool} {text rest : List Char}
    (h : f.untilBrace b cs = some (text, rest)) : rest <:+ cs := by
  induction cs generalizing b text with
  | nil => cases h
  | cons c cs ih =>
    have hcons := List.suffix_cons c cs
    unfold Flags.untilBrace at h
    split at h
    · exact (ih h).trans hcons
    · split at h
      · exact (ih h).trans hcons
      · split at h
        · exact (ih h).trans hcons
        · split at h
          · cases h
            exact hcons
          · obtain ⟨⟨text', rest'⟩, hrest, heq⟩ := Option.map_eq_some_iff.1 h
            cases heq
            exact (ih hrest).trans hcons

/-- What follows has no closing brace in it, so a brace has to come before. -/
theorem untilBrace_append (f : Flags) (b : Bool) (cs : List Char) :
    f.untilBrace b (cs ++ closing) =
      (f.untilBrace b cs).map fun (text, rest) => (text, rest ++ closing) := by
  induction cs generalizing b with
  | nil =>
    have hblank : Text.isBlank ')' = false ∧ Text.isBlank '$' = false := by decide
    cases b
    · simp [Flags.untilBrace, closing, hblank]
    · rfl
  | cons c cs ih =>
    rw [List.cons_append]
    unfold Flags.untilBrace
    split
    · exact ih _
    · split
      · exact ih _
      · split
        · exact ih _
        · split
          · rfl
          · rw [ih, Option.map_map, Option.map_map]
            rfl

theorem local_untilBrace (f : Flags) (b : Bool) : Local (f.untilBrace b) :=
  ⟨untilBrace_suffix, fun cs => .apart (untilBrace_append f b cs)⟩

theorem local_digitAtFront? : Local Escape.digitAtFront? :=
  .ofTail rfl fun c => .ofIte _ .none (.pure c)

theorem local_fixedDigits (f : Flags) (n : Nat) : Local (Escape.fixedDigits f n) := by
  induction n with
  | zero => exact .pure []
  | succ n ih => exact (local_digitAtFront?.skip f).bind fun c => ih.map (c :: ·)

theorem local_hex (f : Flags) (letter : Char) : Local (Escape.hex f letter) := by
  have hbraces : Local fun rest => (do
      let (digits, after) ← f.untilBrace false rest
      if digits.isEmpty then none
      else
        let c ← Escape.charOf? (← Escape.hexValue? digits)
        some (Escape.char c, f.skip after)) :=
    (local_untilBrace f false).bind fun digits => .ofIte _ .none <|
      .ofOption (Escape.hexValue? digits) fun n => .ofOption (Escape.charOf? n) fun c =>
        (Local.pure (Escape.char c)).skip f
  have hfixed : Local fun cs => (do
      let count := if letter == 'x' then 2 else if letter == 'u' then 4 else 8
      let (digits, after) ← Escape.fixedDigits f count cs
      let n ← Escape.hexValue? digits
      if letter == 'x' && !f.unicode && 0x80 ≤ n then none
      else
        let c ← Escape.charOf? n
        some (Escape.char c, f.skip after)) :=
    (local_fixedDigits f _).bind fun digits => .ofOption (Escape.hexValue? digits) fun n =>
      .ofIte _ .none <| .ofOption (Escape.charOf? n) fun c => (Local.pure (Escape.char c)).skip f
  have hread := (Local.ofSign (by decide : '{' ≠ ')') hbraces hfixed).skip f
  have hcount : ∃ n, (if letter == 'x' then 2 else if letter == 'u' then 4 else 8) = n + 1 := by
    split
    · exact ⟨1, rfl⟩
    · split
      · exact ⟨3, rfl⟩
      · exact ⟨7, rfl⟩
  obtain ⟨n, hn⟩ := hcount
  have hskip : ∀ cs, Escape.fixedDigits f (n + 1) (f.skip cs) = Escape.fixedDigits f (n + 1) cs := by
    intro cs
    simp only [Escape.fixedDigits, skip_skip]
  refine hread.congr fun cs => ?_
  unfold Escape.hex
  simp only [hn, hskip]
  cases f.skip cs with
  | nil => rfl
  | cons c behind => by_cases hc : c = '{' <;> simp [hc]

theorem local_namedSet? (f : Flags) : Local (Escape.namedSet? f) := by
  refine .ofTail rfl fun c => ?_
  by_cases hbackslash : c = '\\'
  · subst hbackslash
    exact .none
  · by_cases hbrace : c = '{'
    · subst hbrace
      exact (local_untilBrace f false).bind fun text => .ofPart (Escape.property? text)
    · have hletter := (Local.ofPart ((Unicode.byName? (String.singleton c)).map (·, false))).skip f
      refine hletter.congr fun rest => ?_
      unfold Escape.namedSet?
      split
      · next h => cases h
      · next h => exact absurd (List.cons.inj h).1 hbackslash
      · next h => exact absurd (List.cons.inj h).1 hbrace
      · next h =>
        cases h
        generalize Unicode.byName? (String.singleton c) = named
        cases named <;> rfl

theorem local_unicodeClass (f : Flags) (negated : Bool) : Local (Escape.unicodeClass f negated) :=
  ((local_namedSet? f).skip f).bind fun named => .ofPart (Escape.ofProperty? f negated named)

theorem local_shortClass (f : Flags) (letter : Char) (s : Unicode.CharSet) :
    Local (Escape.shortClass f letter s) :=
  .ofIte _ (.pure _) .none

theorem local_wordEdge (f : Flags) : Local (Escape.wordEdge f) := by
  constructor
  · intro cs x rest h
    unfold Escape.wordEdge at h
    split at h
    · next behind =>
      obtain ⟨⟨text, after⟩, hread, h⟩ := Option.bind_eq_some_iff.1 h
      have hafter := ((local_untilBrace f false).suffix hread).trans (List.suffix_cons '{' behind)
      dsimp only at h
      split at h
      · cases h
        exact List.suffix_rfl
      · split at h
        · cases h
          exact List.suffix_rfl
        · split at h <;> cases h <;> exact hafter
    · cases h
      exact List.suffix_rfl
  · intro cs
    refine .apart ?_
    unfold Escape.wordEdge
    cases cs with
    | nil => rfl
    | cons c behind =>
      by_cases hc : c = '{'
      · subst hc
        change (f.untilBrace false (behind ++ closing) >>= fun x => _) =
          (f.untilBrace false behind >>= fun x => _).map _
        rw [untilBrace_append]
        cases f.untilBrace false behind with
        | none => rfl
        | some read =>
          obtain ⟨text, after⟩ := read
          cases text with
          | nil => rfl
          | cons c text =>
            simp only [Option.map_some, Option.bind_eq_bind, Option.bind_some]
            split
            · rfl
            · split <;> rfl
      · simp [hc]

/-- The signs that have a meaning of their own behind a backslash. -/
def escapeSigns : List Char :=
  ['x', 'u', 'U', 'p', 'P', 'd', 'D', 's', 'S', 'w', 'W', 'a', 'f', 't', 'n', 'r', 'v', 'A', 'z', 'b',
    'B', '<', '>']

theorem readEscape_other {c : Char} (hc : c ∉ escapeSigns) (rest : List Char) :
    readEscape f (c :: rest) = if Escape.isPlain c then some (.char c, rest) else none := by
  simp only [readEscape]
  split <;> first | rfl | exact absurd (by simp [escapeSigns]) hc

theorem local_readEscape_cons (f : Flags) (c : Char) : Local fun rest => readEscape f (c :: rest) := by
  by_cases hc : c ∈ escapeSigns
  · simp only [escapeSigns, List.mem_cons, List.not_mem_nil, or_false] at hc
    rcases hc with rfl | rfl | rfl | rfl | rfl | rfl | rfl | rfl | rfl | rfl | rfl | rfl | rfl | rfl |
      rfl | rfl | rfl | rfl | rfl | rfl | rfl | rfl | rfl
    · exact local_hex f 'x'
    · exact local_hex f 'u'
    · exact local_hex f 'U'
    · exact local_unicodeClass f false
    · exact local_unicodeClass f true
    all_goals first | exact local_shortClass f _ _ | exact .pure _ | exact local_wordEdge f
  · simp only [readEscape_other hc]
    exact .ofIte _ (.pure _) .none

theorem local_readEscape (f : Flags) : Local (readEscape f) :=
  .ofTail rfl (local_readEscape_cons f)

/-! ## Classes -/

/-- Where a text is cut at the first sign that what follows does not have. -/
theorem cut_append {p : Char → Bool} (hclosing : p ')' = true ∧ p '$' = true) (cs : List Char) :
    cs.dropWhile p = [] ∧ (cs ++ closing).dropWhile p = []
      ∨ (cs ++ closing).dropWhile p = cs.dropWhile p ++ closing
        ∧ (cs ++ closing).takeWhile p = cs.takeWhile p := by
  induction cs with
  | nil => exact .inl ⟨rfl, by simp [closing, hclosing]⟩
  | cons c cs ih =>
    by_cases hc : p c = true
    · simpa [hc] using ih
    · exact .inr (by simp [hc])

theorem namedClassBehind?_append (negated : Bool) (cs : List Char) :
    namedClassBehind? negated (cs ++ closing) =
      (namedClassBehind? negated cs).map fun (set, negated, rest) =>
        (set, negated, rest ++ closing) := by
  unfold namedClassBehind?
  rcases cut_append (p := (· != ':')) (by decide) cs with ⟨hshort, hlong⟩ | ⟨hdrop, htake⟩
  · rw [hshort, hlong]
    rfl
  · rw [hdrop, htake]
    match cs.dropWhile (· != ':') with
    | [] => rfl
    | [c] => by_cases hc : c = ':' <;> simp [closing, hc]
    | c :: d :: rest =>
      by_cases hc : c = ':'
      · by_cases hd : d = ']'
        · subst hc hd
          simp [Option.map_map, Function.comp_def]
        · simp [hd]
      · simp [hc]

/-- What follows has no colon in it. -/
theorem namedClassAtFront?_append (cs : List Char) :
    namedClassAtFront? (cs ++ closing) =
      (namedClassAtFront? cs).map fun (set, negated, rest) => (set, negated, rest ++ closing) := by
  match cs with
  | [] => rfl
  | [c] =>
    by_cases hc : c = ':'
    · subst hc
      exact namedClassBehind?_append false []
    · simp [namedClassAtFront?, hc]
  | c :: d :: rest =>
    by_cases hc : c = ':'
    · subst hc
      by_cases hd : d = '^'
      · subst hd
        exact namedClassBehind?_append true rest
      · simpa [namedClassAtFront?, hd] using namedClassBehind?_append false (d :: rest)
    · simp [namedClassAtFront?, hc]

theorem namedClassBehind?_suffix {negated : Bool} {read : Unicode.CharSet × Bool × List Char}
    (h : namedClassBehind? negated cs = some read) : read.2.2 <:+ cs := by
  unfold namedClassBehind? at h
  split at h
  · next after hdrop =>
    obtain ⟨set, -, rfl⟩ := Option.map_eq_some_iff.1 h
    have hsuffix := List.dropWhile_suffix (l := cs) (· != ':')
    rw [hdrop] at hsuffix
    exact ((List.suffix_cons ']' after).trans (List.suffix_cons ':' _)).trans hsuffix
  · cases h

theorem namedClassAtFront?_suffix {read : Unicode.CharSet × Bool × List Char}
    (h : namedClassAtFront? cs = some read) : read.2.2 <:+ cs := by
  unfold namedClassAtFront? at h
  split at h
  · next rest =>
    exact ((namedClassBehind?_suffix h).trans (List.suffix_cons '^' rest)).trans
      (List.suffix_cons ':' _)
  · exact (namedClassBehind?_suffix h).trans (List.suffix_cons ':' _)
  · cases h

theorem local_readClassItem_cons (f : Flags) (c : Char) :
    Local fun rest => readClassItem f (c :: rest) := by
  by_cases hc : c = '\\'
  · subst hc
    exact local_readEscape f
  · simpa [readClassItem, hc] using Local.pure (Escape.char c)

theorem local_readClassItem (f : Flags) : Local (readClassItem f) :=
  .ofTail rfl (local_readClassItem_cons f)

theorem dropBlank_append (cs : List Char) :
    (cs ++ closing).dropWhile Text.isBlank = cs.dropWhile Text.isBlank ++ closing := by
  induction cs with
  | nil => rfl
  | cons c cs ih => by_cases hc : Text.isBlank c = true <;> simp [hc, ih]

theorem Local.dropBlank {F : List Char → Option (α × List Char)} (hF : Local F) :
    Local fun cs => F (cs.dropWhile Text.isBlank) where
  suffix h := (hF.suffix h).trans (List.dropWhile_suffix _)
  agrees cs := by
    rw [dropBlank_append]
    exact hF.agrees _

/-- What follows does not make a hyphen stand for itself. -/
theorem beyondHyphen?_append (f : Flags) (cs : List Char) :
    beyondHyphen? f (cs ++ closing) = (beyondHyphen? f cs).or (some ')') := by
  have hhead : ∀ cs : List Char, (cs ++ closing).head? = cs.head?.or (some ')') := by
    intro cs
    cases cs <;> rfl
  unfold beyondHyphen?
  split
  · rw [dropBlank_append]
    match cs.dropWhile Text.isBlank with
    | [] => rfl
    | c :: rest =>
      by_cases hc : c = '#'
      · subst hc
        simp only [List.cons_append, dropBlank_append, hhead]
      · simp [hc]
  · exact hhead cs

theorem startsRange_append (f : Flags) (cs : List Char) :
    startsRange f (cs ++ closing) = startsRange f cs := by
  cases cs with
  | nil => rfl
  | cons c cs =>
    unfold startsRange
    simp only [List.cons_append, List.head?_cons, List.tail_cons, beyondHyphen?_append]
    cases beyondHyphen? f cs <;> rfl

theorem local_readBehindHyphen (f : Flags) (first : Escape) : Local (readBehindHyphen f first) :=
  ((local_readClassItem f).skip f).bind fun second => .ofPart (rangePart? f first second)

theorem local_readRangeEnd (f : Flags) (first : Escape) : Local (readRangeEnd f first) := by
  have hrange := local_readBehindHyphen f first
  have hsingle : Local fun cs => (first.part? f).map (·, cs) := .ofPart (first.part? f)
  constructor
  · intro cs p rest h
    unfold readRangeEnd at h
    split at h
    · exact (hrange.suffix h).trans (List.tail_suffix cs)
    · exact hsingle.suffix h
  · intro cs
    unfold readRangeEnd
    rw [startsRange_append]
    split
    · next hstarts =>
      cases cs with
      | nil => cases hstarts
      | cons c cs => exact hrange.agrees cs
    · exact hsingle.agrees cs

theorem local_readClassRange_cons (f : Flags) (c : Char) :
    Local fun rest => readClassRange f (c :: rest) :=
  (local_readClassItem_cons f c).bind fun first => (local_readRangeEnd f first).skip f

theorem local_openClass (f : Flags) : Local fun cs => some (openClass f cs) := by
  have hread := (Local.ofSign (by decide : '^' ≠ ')') ((Local.pure (OpenClass.fresh true)).skip f)
    (.pure (OpenClass.fresh false))).skip f
  refine hread.congr fun cs => ?_
  unfold openClass
  cases f.skip cs with
  | nil => rfl
  | cons c rest => by_cases hc : c = '^' <;> simp [hc]

/-- The signs that have a meaning of their own in a class. -/
def classSigns : List Char := ['[', ']', '&', '~', '-']

section

variable {current : OpenClass} {outer : List OpenClass}

theorem classStep_other {c : Char} (hc : f.Counts c) (hsign : c ∉ classSigns) (rest : List Char) :
    classStep f current outer (c :: rest) = readMember f current outer (c :: rest) := by
  unfold classStep
  rw [hc]
  simp only [classSigns, List.mem_cons, List.not_mem_nil, or_false, not_or] at hsign
  simp [hsign]

theorem local_readBracket : Local (readBracket f current outer) := by
  have hopen := (local_openClass f).map fun inner => ClassStep.inside inner (current :: outer)
  constructor
  · intro cs x rest h
    unfold readBracket at h
    split at h
    · next hnamed =>
      obtain ⟨set, -, hset⟩ := Option.map_eq_some_iff.1 h
      cases hset
      exact namedClassAtFront?_suffix hnamed
    · exact hopen.suffix h
  · intro cs
    unfold readBracket
    rw [namedClassAtFront?_append]
    cases namedClassAtFront? cs with
    | none => exact hopen.agrees cs
    | some named =>
      refine .apart ?_
      dsimp only [Option.map_some]
      cases f.close? named.2.1 named.1 <;> rfl

theorem local_readMember_cons (c : Char) : Local fun rest => readMember f current outer (c :: rest) :=
  (local_readClassRange_cons f c).map fun p => ClassStep.inside (current.add p) outer

theorem local_classStep_cons {c : Char} (hc : f.Counts c) :
    Local fun rest => classStep f current outer (c :: rest) := by
  -- a sign that counts only if it is doubled
  have hdoubled : ∀ x : ClassStep, c ≠ ')' → Local fun rest =>
      if rest.head? = some c then some (x, rest.tail) else readMember f current outer (c :: rest) :=
    fun x hne => .ofSign hne (.pure x) (local_readMember_cons c)
  by_cases hsign : c ∈ classSigns
  · simp only [classSigns, List.mem_cons, List.not_mem_nil, or_false] at hsign
    rcases hsign with rfl | rfl | rfl | rfl | rfl
    · have hbracket : Local (readBracket f current outer) := local_readBracket
      refine hbracket.congr fun rest => ?_
      unfold classStep
      rw [hc]
      rfl
    · have hfinish := Local.ofPart ((current.close? f).map (endClass · outer))
      refine (Local.ofIte (current.atStart && current.items.count == 0)
        (.pure (.inside (current.add ⟨.single ']', 0⟩) outer)) hfinish).congr fun rest => ?_
      unfold classStep
      rw [hc, Option.map_map]
      rfl
    · refine (hdoubled (.inside (current.operate f .intersection) outer) (by decide)).congr
        fun rest => ?_
      unfold classStep
      rw [hc]
      cases rest with
      | nil => rfl
      | cons d rest => by_cases hd : d = '&' <;> simp [hd]
    · refine (hdoubled (.inside (current.operate f .symmetricDifference) outer) (by decide)).congr
        fun rest => ?_
      unfold classStep
      rw [hc]
      cases rest with
      | nil => rfl
      | cons d rest => by_cases hd : d = '~' <;> simp [hd]
    · refine (Local.ofIte current.atStart
        (.pure (.inside { current.add ⟨.single '-', 0⟩ with atStart := true } outer))
        (hdoubled (.inside (current.operate f .difference) outer) (by decide))).congr fun rest => ?_
      unfold classStep
      rw [hc]
      cases rest with
      | nil => rfl
      | cons d rest => by_cases hd : d = '-' <;> simp [hd]
  · exact (local_readMember_cons c).congr (classStep_other hc hsign)

theorem classStep_skip (cs : List Char) :
    classStep f current outer (f.skip cs) = classStep f current outer cs := by
  unfold classStep
  rw [skip_skip]

theorem classStep_nil : classStep f current outer [] = none := by
  unfold classStep
  rw [skip_nil]

theorem readOpenClasses_suffix {n : Nat} {p : ClassPart} {rest : List Char}
    (h : readOpenClasses f n current outer cs = some (p, rest)) : rest <:+ cs := by
  induction n generalizing current outer cs with
  | zero => cases h
  | succ n ih =>
    rw [readOpenClasses] at h
    split at h
    · cases h
    · next hstep =>
      cases h
      exact (Local.takes classStep_skip classStep_nil (fun _ => local_classStep_cons) hstep).1
    · next hstep =>
      exact (ih h).trans
        (Local.takes classStep_skip classStep_nil (fun _ => local_classStep_cons) hstep).1

theorem readOpenClasses_nil (n : Nat) : readOpenClasses f n current outer [] = none := by
  cases n with
  | zero => rfl
  | succ n => rw [readOpenClasses, classStep_nil]

/-- Open classes are read in the same way whatever number bounds the steps, if it is great enough. -/
theorem agrees_readOpenClasses {n m : Nat} (hn : cs.length < n) (hm : (cs ++ closing).length < m) :
    Agrees (readOpenClasses f n current outer cs) (readOpenClasses f m current outer (cs ++ closing)) := by
  induction n generalizing m current outer cs with
  | zero => omega
  | succ n ih =>
    obtain ⟨m, rfl⟩ : ∃ k, m = k + 1 := ⟨m - 1, by omega⟩
    have hstep : Local (classStep f current outer) :=
      .ofCounted classStep_skip classStep_nil fun _ => local_classStep_cons
    rw [readOpenClasses, readOpenClasses]
    have hagrees := hstep.agrees cs
    generalize hlong : classStep f current outer (cs ++ closing) = long at hagrees
    generalize hshort : classStep f current outer cs = short at hagrees
    cases hagrees with
    | apart h =>
      subst h
      match short with
      | none => exact .apart rfl
      | some (.finished p, after) => exact .apart rfl
      | some (.inside current outer, after) =>
        have hless := (Local.takes classStep_skip classStep_nil
          (fun _ => local_classStep_cons) hshort).2
        have hlessLong := (Local.takes classStep_skip classStep_nil
          (fun _ => local_classStep_cons) hlong).2
        exact ih (by omega) (by omega)
    | across h =>
      refine .across fun p rest hread => ?_
      match long with
      | some (.finished p, after) =>
        cases hread
        exact h _ _ rfl
      | some (.inside current outer, after) =>
        exact Nat.lt_of_le_of_lt (readOpenClasses_suffix hread).length_le (h _ _ rfl)
    | swallowed x =>
      match x with
      | .finished p => exact .swallowed p
      | .inside current outer =>
        dsimp only
        rw [readOpenClasses_nil, readOpenClasses_nil]
        exact .apart rfl

end

theorem local_readClass (f : Flags) : Local (readClass f) := by
  have hopen : ∀ first, Local fun rest => readOpenClasses f (rest.length + 1) first [] rest :=
    fun first => ⟨readOpenClasses_suffix,
      fun cs => agrees_readOpenClasses (Nat.lt_succ_self _) (Nat.lt_succ_self _)⟩
  exact (local_openClass f).bind
    (G := fun read => readOpenClasses f (read.2.length + 1) read.1 [] read.2) hopen

end RestSuite.Pattern
