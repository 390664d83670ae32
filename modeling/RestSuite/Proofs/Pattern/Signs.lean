import RestSuite.Proofs.Pattern.Tokens

/-!
# The signs of a pattern and what follows

A pattern is read sign by sign. What one sign is read as does not depend on what follows the pattern.
Groups may begin with names or flags, and repetitions with numbers, which may be followed by comments.

* **`Reader.local_readGroup`**, **`Reader.local_repeatByCount`** — the longer signs.
* **`Reader.step_close`**, **`Reader.step_class`**, **`Reader.step_escape`**, **`Reader.step_dot`**,
  **`Reader.step_other`** — what a step does for each sign.
* **`Reader.local_step_cons`** — a step behind its first character.
-/

namespace RestSuite.Pattern.Reader

variable {f : Flags} {r : Reader} {cs : List Char}

/-! ## Groups -/

theorem local_openNamed (r : Reader) : Local r.openNamed := by
  constructor
  · intro cs r' rest h
    unfold openNamed at h
    dsimp only at h
    split at h
    · next hdrop hname =>
      split at h
      · cases h
        have hsuffix := List.dropWhile_suffix (l := cs) (· != '>')
        rw [hdrop] at hsuffix
        exact (List.suffix_cons '>' _).trans hsuffix
      · cases h
    · cases h
  · intro cs
    refine .apart ?_
    unfold openNamed
    rcases cut_append (p := (· != '>')) (by decide) cs with ⟨hshort, hlong⟩ | ⟨hdrop, htake⟩
    · simp only [hshort, hlong]
      rfl
    · simp only [hdrop, htake]
      cases cs.dropWhile (· != '>') with
      | nil => rfl
      | cons c after =>
        by_cases hc : c = '>'
        · subst hc
          cases cs.takeWhile (· != '>') with
          | nil => rfl
          | cons first more =>
            simp only [List.cons_append]
            split <;> rfl
        · simp [hc]

theorem readFlags_suffix {negated : Bool} {seen : List Char} {read : Flags × List Char × Bool}
    (h : readFlags f negated seen cs = some read) : read.2.1 <:+ cs ∧ read.2.1 ≠ [] := by
  induction cs generalizing f negated seen with
  | nil => cases h
  | cons c cs ih =>
    have hcons := List.suffix_cons c cs
    rw [readFlags] at h
    split at h
    · split at h <;> cases h
      exact ⟨List.suffix_rfl, nofun⟩
    · split at h
      · cases h
      · split at h
        · exact ⟨(ih h).1.trans hcons, (ih h).2⟩
        · split at h
          · cases h
          · exact ⟨(ih h).1.trans hcons, (ih h).2⟩

/-- What follows ends the letters of flags. -/
theorem readFlags_append (f : Flags) (negated : Bool) (seen cs : List Char) :
    readFlags f negated seen (cs ++ closing) =
        (readFlags f negated seen cs).map (fun (flags, rest, bare) => (flags, rest ++ closing, bare))
      ∨ readFlags f negated seen cs = none
        ∧ ∀ flags rest bare, readFlags f negated seen (cs ++ closing) = some (flags, rest, bare) →
          rest = closing := by
  induction cs generalizing f negated seen with
  | nil =>
    refine .inr ⟨rfl, fun flags rest bare h => ?_⟩
    rw [List.nil_append, closing, readFlags, if_pos (by rfl)] at h
    split at h <;> cases h
    rfl
  | cons c cs ih =>
    rw [List.cons_append, readFlags, readFlags]
    split
    · left
      split <;> rfl
    · split
      · exact .inl rfl
      · split
        · exact ih _ _ _
        · split
          · exact .inl rfl
          · exact ih _ _ _

theorem local_readFlagGroup (r : Reader) : Local r.readFlagGroup := by
  constructor
  · intro cs r' rest h
    unfold readFlagGroup at h
    split at h
    · next hread =>
      cases h
      exact (List.suffix_cons _ _).trans (readFlags_suffix hread).1
    · next hread =>
      cases h
      exact (List.suffix_cons _ _).trans (readFlags_suffix hread).1
    · cases h
  · intro cs
    unfold readFlagGroup
    rcases readFlags_append r.flags false [] cs with heq | ⟨hshort, hlong⟩
    · rw [heq]
      cases hread : readFlags r.flags false [] cs with
      | none => exact .apart rfl
      | some read =>
        obtain ⟨flags, rest, bare⟩ := read
        refine .apart ?_
        cases rest with
        | nil => exact absurd rfl (readFlags_suffix hread).2
        | cons c rest => by_cases hc : c = ':' <;> cases bare <;> simp [hc]
    · rw [hshort]
      refine .across fun r' rest h => ?_
      split at h
      · next hread => cases hlong _ _ _ hread
      · next hread =>
        cases h
        have hrest := congrArg List.length (hlong _ _ _ hread)
        simp only [List.length_cons] at hrest
        omega
      · cases h

theorem local_readMark (r : Reader) : Local r.readMark := by
  have hnamed := local_openNamed r
  have hbehind : Local fun rest => if rest.head? = some '=' then none
      else if rest.head? = some '!' then none else r.openNamed rest :=
    .ofPeek (by decide) .none (.ofPeek (by decide) .none hnamed)
  have hmark := Local.ofSign (by decide : 'P' ≠ ')')
    (.ofSign (by decide : '<' ≠ ')') hnamed .none)
    (.ofSign (by decide : '<' ≠ ')') hbehind (local_readFlagGroup r))
  -- the letter in front of the sign is no flag
  have hletter : ∀ rest, r.readFlagGroup ('P' :: rest) = none := fun _ => rfl
  refine hmark.congr fun cs => ?_
  unfold readMark
  match cs with
  | [] => rfl
  | [c] =>
    by_cases hmark : c = 'P'
    · simp [hmark, hletter]
    · by_cases hangle : c = '<' <;> simp [hmark, hangle]
  | c :: d :: rest =>
    by_cases hmark : c = 'P'
    · by_cases hangle : d = '<' <;> simp [hmark, hangle, hletter]
    · by_cases hangle : c = '<'
      · by_cases hequal : d = '='
        · simp [hangle, hequal]
        · by_cases hnot : d = '!' <;> simp [hangle, hequal, hnot]
      · simp [hmark, hangle]

theorem local_readGroup (r : Reader) : Local r.readGroup := by
  have hread := Local.ofSign (by decide : '?' ≠ ')') (local_readMark r) (.pure r.openCapture)
  refine (hread.skip r.flags).congr fun cs => ?_
  unfold readGroup
  cases r.flags.skip cs with
  | nil => rfl
  | cons c rest => by_cases hc : c = '?' <;> simp [hc]

/-! ## Repetitions -/

theorem local_takeLazyMark : Local fun cs => some (takeLazyMark cs) := by
  refine (Local.ofSign (by decide : '?' ≠ ')') (.pure true) (.pure false)).congr fun cs => ?_
  cases cs with
  | nil => rfl
  | cons c rest => by_cases hc : c = '?' <;> simp [takeLazyMark, hc]

theorem local_repeatBySign (r : Reader) (least : Nat) (most : Option Nat) :
    Local (r.repeatBySign least most) :=
  local_takeLazyMark.bind
    (G := fun read => (r.repeatLast least most read.1).map (·, read.2))
    fun lazyMark => .ofPart (r.repeatLast least most lazyMark)

theorem local_takeDigits (f : Flags) (b : Bool) : Local fun cs => some (takeDigits f b cs) := by
  constructor
  · intro cs
    induction cs generalizing b with
    | nil =>
      intro digits rest h
      cases h
      exact List.suffix_rfl
    | cons c cs ih =>
      intro digits rest h
      have hcons := List.suffix_cons c cs
      rw [takeDigits] at h
      split at h
      · exact (ih _ h).trans hcons
      · split at h
        · cases h
          exact (ih false rfl).trans hcons
        · split at h
          · exact (ih _ h).trans hcons
          · split at h
            · exact (ih _ h).trans hcons
            · cases h
              exact List.suffix_rfl
  · intro cs
    induction cs generalizing b with
    | nil =>
      cases b with
      | false =>
        have hblank : Text.isBlank ')' = false := by decide
        exact .apart (by simp [takeDigits, closing, hblank])
      | true => exact .swallowed []
    | cons c cs ih =>
      dsimp only [List.cons_append]
      rw [takeDigits, takeDigits]
      split
      · exact ih _
      · split
        · exact (ih false).bind (G := fun read => some (c :: read.1, read.2))
            fun digits => .pure (c :: digits)
        · split
          · exact ih _
          · split
            · exact ih _
            · exact .apart rfl

theorem local_readCount (f : Flags) : Local (readCount f) := by
  have hcount : ∀ digits : List Char, Local fun after =>
      let n := digits.foldl (fun n c => 10 * n + (c.toNat - '0'.toNat)) 0
      if digits.isEmpty || countLimit < n then none else some (n, after.dropWhile Text.isBlank) :=
    fun digits => .ofIte _ .none (Local.pure _).dropBlank
  exact (local_takeDigits f false).dropBlank.bind (G := fun read =>
    let n := read.1.foldl (fun n c => 10 * n + (c.toNat - '0'.toNat)) 0
    if read.1.isEmpty || countLimit < n then none else some (n, read.2.dropWhile Text.isBlank)) hcount

theorem local_readMost (f : Flags) (least : Nat) : Local (readMost f least) := by
  have hmost := Local.ofPeek (by decide : '}' ≠ ')') (.pure (none : Option Nat))
    ((local_readCount f).map some)
  refine (Local.ofSign (by decide : ',' ≠ ')') (hmost.skip f) (.pure (some least))).congr fun cs => ?_
  unfold readMost
  cases cs with
  | nil => rfl
  | cons c rest =>
    by_cases hc : c = ','
    · subst hc
      cases hskip : f.skip rest with
      | nil => simp [hskip]
      | cons d more => by_cases hd : d = '}' <;> simp [hskip, hd]
    · simp [hc]

theorem local_repeatUpTo (r : Reader) (least : Nat) (most : Option Nat) :
    Local (r.repeatUpTo least most) := by
  have hrepeat := (local_repeatBySign r least most).skip r.flags
  refine (Local.ofSign (by decide : '}' ≠ ')')
    (.ofIte (most.getD least < least) .none hrepeat) .none).congr fun cs => ?_
  unfold repeatUpTo
  cases cs with
  | nil => rfl
  | cons c rest => by_cases hc : c = '}' <;> simp [hc]

theorem local_repeatByCount (r : Reader) : Local r.repeatByCount :=
  ((local_readCount r.flags).skip r.flags).bind fun least =>
    (local_readMost r.flags least).bind fun most => local_repeatUpTo r least most

/-! ## Steps -/

/-- The signs that have a meaning of their own. -/
def signs : List Char := ['(', ')', '|', '[', '?', '*', '+', '{', '\\', '.', '^', '$']

theorem step_other {c : Char} (hc : c ∉ signs) (rest : List Char) :
    r.step (c :: rest) = some (r.addChar c, rest) := by
  simp only [signs, List.mem_cons, List.not_mem_nil, or_false, not_or] at hc
  simp [step, hc]

theorem step_close (rest : List Char) : r.step (')' :: rest) = r.closeGroup?.map (·, rest) := rfl

theorem step_class (rest : List Char) :
    r.step ('[' :: rest) =
      (readClass r.flags rest).map fun (p, after) => (r.add (.chars p.set) p.nesting, after) := by
  change (readClass r.flags rest >>= fun _ => _) = _
  cases readClass r.flags rest <;> rfl

/-- Adds what an escape stands for. -/
def addEscape (r : Reader) : Escape → Reader
  | .char c => r.addChar c
  | .set s => r.add (.chars s) 0
  | .look a => r.add (.look a) 0

theorem step_escape (rest : List Char) :
    r.step ('\\' :: rest) =
      (readEscape r.flags rest).map fun (e, after) => (r.addEscape e, after) := by
  change (readEscape r.flags rest >>= fun _ => _) = _
  cases readEscape r.flags rest with
  | none => rfl
  | some read =>
    obtain ⟨e, after⟩ := read
    cases e <;> rfl

theorem step_dot (rest : List Char) :
    r.step ('.' :: rest) = r.flags.dot?.map fun s => (r.add (.chars s) 0, rest) := by
  change (r.flags.dot? >>= fun _ => _) = _
  cases r.flags.dot? <;> rfl

theorem local_step_cons (r : Reader) (c : Char) : Local fun rest => r.step (c :: rest) := by
  by_cases hc : c ∈ signs
  · simp only [signs, List.mem_cons, List.not_mem_nil, or_false] at hc
    rcases hc with rfl | rfl | rfl | rfl | rfl | rfl | rfl | rfl | rfl | rfl | rfl | rfl
    · exact local_readGroup r
    · exact .ofPart r.closeGroup?
    · exact .pure _
    · exact ((local_readClass r.flags).map fun p => r.add (.chars p.set) p.nesting).congr step_class
    · exact local_repeatBySign r 0 (some 1)
    · exact local_repeatBySign r 0 none
    · exact local_repeatBySign r 1 none
    · exact local_repeatByCount r
    · exact ((local_readEscape r.flags).map r.addEscape).congr step_escape
    · exact .ofOption r.flags.dot? fun s => .pure _
    · exact .pure _
    · exact .pure _
  · exact (Local.pure (r.addChar c)).congr (step_other hc)

end RestSuite.Pattern.Reader
