import RestSuite.Pattern.Parser

/-!
# Readers and what follows

A pattern that is put into a group has the end of the group behind it. A reader takes something from the
front of a text and leaves the rest. Whether what follows changes what it takes is said here once and for
all readers, and the ways in which readers are put together keep it. Only two things can happen at the
border: a reader that refuses the text may read on into what follows, and a comment may swallow it.

* **`Agrees`** — what a reader gives for a text agrees with what it gives if something follows.
* **`Local`** — a reader takes a front of the text, and agrees with itself in this way.
* **`Local.bind`**, **`Local.ofSign`**, **`Local.ofTail`** — readers that are put together from such readers.
* **`Local.skip`**, **`Local.ofCounted`** — readers that leave out blanks and comments.
-/

namespace RestSuite.Pattern

variable {α β : Type} {f : Flags} {cs : List Char}

/-- What is put behind a pattern when it is put into a group. -/
def closing : List Char := [')', '$']

/-- What a reader gives for a text, and what it gives if something follows. -/
inductive Agrees : Option (α × List Char) → Option (α × List Char) → Prop where
  /-- What follows is left over. -/
  | apart {short long : Option (α × List Char)}
      (h : long = short.map fun (x, rest) => (x, rest ++ closing)) : Agrees short long
  /-- The text is refused; what follows may be read into. -/
  | across {long : Option (α × List Char)}
      (h : ∀ x rest, long = some (x, rest) → rest.length < closing.length) : Agrees none long
  /-- What follows is in a comment. -/
  | swallowed (x : α) : Agrees (some (x, [])) (some (x, []))

/-- A reader takes a front of the text, whatever follows. -/
structure Local (F : List Char → Option (α × List Char)) : Prop where
  suffix : ∀ {cs x rest}, F cs = some (x, rest) → rest <:+ cs
  agrees : ∀ cs, Agrees (F cs) (F (cs ++ closing))

theorem Agrees.refl_of_suffix {read : Option (α × List Char)}
    (h : ∀ x rest, read = some (x, rest) → rest <:+ []) : Agrees read read := by
  match read, h with
  | none, _ => exact .apart rfl
  | some (x, rest), h =>
    obtain rfl := List.suffix_nil.1 (h x rest rfl)
    exact .swallowed x

theorem Agrees.bind {short long : Option (α × List Char)}
    {G : α × List Char → Option (β × List Char)} (h : Agrees short long)
    (hG : ∀ x, Local fun cs => G (x, cs)) : Agrees (short >>= G) (long >>= G) := by
  cases h with
  | apart h =>
    subst h
    match short with
    | none => exact .apart rfl
    | some (x, rest) => exact (hG x).agrees rest
  | across h =>
    refine .across fun y rest hlong => ?_
    obtain ⟨⟨x, middle⟩, hmiddle, hrest⟩ := Option.bind_eq_some_iff.1 hlong
    exact Nat.lt_of_le_of_lt ((hG x).suffix hrest).length_le (h x middle hmiddle)
  | swallowed x => exact .refl_of_suffix fun y rest h => (hG x).suffix h

namespace Local

variable {F : List Char → Option (α × List Char)}

theorem pure (x : α) : Local fun cs => some (x, cs) where
  suffix h := by
    cases h
    exact List.suffix_rfl
  agrees _ := .apart rfl

theorem none : Local (fun _ => none : List Char → Option (α × List Char)) where
  suffix h := nomatch h
  agrees _ := .apart rfl

theorem bind {G : α × List Char → Option (β × List Char)} (hF : Local F)
    (hG : ∀ x, Local fun cs => G (x, cs)) : Local fun cs => F cs >>= G where
  suffix h := by
    obtain ⟨⟨x, middle⟩, hmiddle, hrest⟩ := Option.bind_eq_some_iff.1 h
    exact ((hG x).suffix hrest).trans (hF.suffix hmiddle)
  agrees cs := (hF.agrees cs).bind hG

theorem map (hF : Local F) (g : α → β) :
    Local fun cs => (F cs).map fun (x, rest) => (g x, rest) := by
  have h := hF.bind (G := fun (x, rest) => some (g x, rest)) fun x => .pure (g x)
  have heq : ∀ read : Option (α × List Char),
      (read >>= fun (x, rest) => some (g x, rest)) = read.map fun (x, rest) => (g x, rest) := by
    intro read
    cases read <;> rfl
  simpa only [heq] using h

theorem congr {F' : List Char → Option (α × List Char)} (hF : Local F) (h : ∀ cs, F' cs = F cs) :
    Local F' := by
  rwa [funext h]

/-- A reader that first looks at something else. -/
theorem ofOption {γ : Type} {G : γ → List Char → Option (α × List Char)} (o : Option γ)
    (hG : ∀ x, Local (G x)) : Local fun cs => o >>= fun x => G x cs := by
  cases o with
  | none => exact .none
  | some x => exact hG x

/-- A reader that reads nothing. -/
theorem ofPart (o : Option α) : Local fun cs => o.map (·, cs) := by
  cases o with
  | none => exact .none
  | some x => exact .pure x

theorem ofIte {F' : List Char → Option (α × List Char)} (c : Prop) [Decidable c] (h : Local F)
    (h' : Local F') : Local fun cs => if c then F cs else F' cs := by
  by_cases hc : c <;> simpa [hc]

/-- A reader that goes by the first sign and reads on behind it. -/
theorem ofTail (hnil : F [] = Option.none) (hcons : ∀ c, Local fun rest => F (c :: rest)) :
    Local F where
  suffix {cs x rest} h := by
    cases cs with
    | nil => cases hnil.symm.trans h
    | cons c cs => exact ((hcons c).suffix h).trans (List.suffix_cons c cs)
  agrees cs := by
    cases cs with
    | nil =>
      rw [hnil]
      exact .across fun x rest h =>
        Nat.lt_of_le_of_lt ((hcons ')').suffix h).length_le (by decide)
    | cons c cs => exact (hcons c).agrees cs

/-- A reader that looks for a sign and else begins where it stands. What follows does not begin with the
sign. -/
theorem ofSign {A B : List Char → Option (α × List Char)} {d : Char} (hd : d ≠ ')') (hA : Local A)
    (hB : Local B) : Local fun cs => if cs.head? = some d then A cs.tail else B cs where
  suffix {cs x rest} h := by
    split at h
    · exact (hA.suffix h).trans (List.tail_suffix cs)
    · exact hB.suffix h
  agrees cs := by
    cases cs with
    | nil => simpa [closing, Ne.symm hd] using hB.agrees []
    | cons c cs =>
      by_cases hc : c = d
      · simpa [hc] using hA.agrees cs
      · simpa [hc] using hB.agrees (c :: cs)

/-- A reader that goes by the first sign and leaves it there. -/
theorem ofPeek {A B : List Char → Option (α × List Char)} {d : Char} (hd : d ≠ ')') (hA : Local A)
    (hB : Local B) : Local fun cs => if cs.head? = some d then A cs else B cs where
  suffix {cs x rest} h := by
    split at h
    · exact hA.suffix h
    · exact hB.suffix h
  agrees cs := by
    cases cs with
    | nil => simpa [closing, Ne.symm hd] using hB.agrees []
    | cons c cs =>
      by_cases hc : c = d
      · simpa [hc] using hA.agrees (c :: cs)
      · simpa [hc] using hB.agrees (c :: cs)

end Local

/-! ## Blanks and comments -/

theorem dropBlanks_suffix (b : Bool) (cs : List Char) : Flags.dropBlanks b cs <:+ cs := by
  induction cs generalizing b with
  | nil => exact List.suffix_rfl
  | cons c cs ih =>
    have hcons := List.suffix_cons c cs
    unfold Flags.dropBlanks
    split
    · exact (ih _).trans hcons
    · split
      · exact (ih _).trans hcons
      · split
        · exact (ih _).trans hcons
        · exact List.suffix_rfl

theorem dropBlanks_append (b : Bool) (cs : List Char) :
    Flags.dropBlanks b (cs ++ closing) = Flags.dropBlanks b cs ++ closing
      ∨ Flags.dropBlanks b cs = [] ∧ Flags.dropBlanks b (cs ++ closing) = [] := by
  induction cs generalizing b with
  | nil =>
    cases b with
    | false => exact .inl rfl
    | true => exact .inr ⟨rfl, rfl⟩
  | cons c cs ih =>
    rw [List.cons_append]
    unfold Flags.dropBlanks
    split
    · exact ih _
    · split
      · exact ih _
      · split
        · exact ih _
        · exact .inl rfl

theorem skip_suffix (f : Flags) (cs : List Char) : f.skip cs <:+ cs := by
  unfold Flags.skip
  split
  · exact dropBlanks_suffix false cs
  · exact List.suffix_rfl

theorem skip_append (f : Flags) (cs : List Char) :
    f.skip (cs ++ closing) = f.skip cs ++ closing
      ∨ f.skip cs = [] ∧ f.skip (cs ++ closing) = [] := by
  unfold Flags.skip
  split
  · exact dropBlanks_append false cs
  · exact .inl rfl

theorem dropBlanks_cases (b : Bool) (cs : List Char) :
    Flags.dropBlanks b cs = [] ∨ ∃ c rest, Flags.dropBlanks b cs = c :: rest
      ∧ ∀ more, Flags.dropBlanks false (c :: more) = c :: more := by
  induction cs generalizing b with
  | nil => exact .inl rfl
  | cons c cs ih =>
    rw [Flags.dropBlanks]
    split
    · exact ih _
    · split
      · exact ih _
      · split
        · exact ih _
        · next hsign hblank =>
          exact .inr ⟨c, cs, rfl, fun more => by simp [Flags.dropBlanks, hsign, hblank]⟩

/-- A sign that is no blank and begins no comment. -/
def Flags.Counts (f : Flags) (c : Char) : Prop :=
  ∀ rest, f.skip (c :: rest) = c :: rest

theorem skip_cases (f : Flags) (cs : List Char) :
    f.skip cs = [] ∨ ∃ c rest, f.skip cs = c :: rest ∧ f.Counts c := by
  unfold Flags.Counts Flags.skip
  split
  · exact dropBlanks_cases false cs
  · cases cs with
    | nil => exact .inl rfl
    | cons c rest => exact .inr ⟨c, rest, rfl, fun _ => rfl⟩

theorem counts_closing (f : Flags) : f.Counts ')' := by
  intro rest
  have hblank : Text.isBlank ')' = false := by decide
  unfold Flags.skip
  split
  · simp [Flags.dropBlanks, hblank]
  · rfl

theorem skip_nil (f : Flags) : f.skip [] = [] := by
  unfold Flags.skip
  split <;> rfl

theorem skip_skip (f : Flags) (cs : List Char) : f.skip (f.skip cs) = f.skip cs := by
  rcases skip_cases f cs with h | ⟨c, rest, h, hc⟩
  · rw [h, skip_nil]
  · rw [h, hc]

namespace Local

variable {F : List Char → Option (α × List Char)}

theorem skip (hF : Local F) (f : Flags) : Local fun cs => F (f.skip cs) where
  suffix h := (hF.suffix h).trans (skip_suffix f _)
  agrees cs := by
    rcases skip_append f cs with h | ⟨hshort, hlong⟩
    · rw [h]
      exact hF.agrees (f.skip cs)
    · rw [hshort, hlong]
      exact .refl_of_suffix fun x rest h => hF.suffix h

section

variable (hskip : ∀ cs, F (f.skip cs) = F cs) (hnil : F [] = Option.none)
  (hcons : ∀ c, f.Counts c → Local fun rest => F (c :: rest))
include hskip hnil hcons

/-- What goes by the first sign that counts takes that sign. -/
theorem takes {x : α} {rest : List Char} (h : F cs = some (x, rest)) :
    rest <:+ cs ∧ rest.length < cs.length := by
  rw [← hskip] at h
  have hcs := skip_suffix f cs
  rcases skip_cases f cs with hnone | ⟨c, behind, hfirst, hc⟩
  · rw [hnone, hnil] at h
    cases h
  · rw [hfirst] at h hcs
    have hrest := (hcons c hc).suffix h
    have hlength := hcs.length_le
    exact ⟨(hrest.trans (List.suffix_cons c behind)).trans hcs,
      Nat.lt_of_lt_of_le (Nat.lt_succ_of_le hrest.length_le) hlength⟩

theorem ofCounted : Local F where
  suffix h := (takes hskip hnil hcons h).1
  agrees cs := by
    rw [← hskip cs, ← hskip (cs ++ closing)]
    rcases skip_append f cs with h | ⟨hshort, hlong⟩
    · rw [h]
      rcases skip_cases f cs with hnone | ⟨c, behind, hfirst, hc⟩
      · rw [hnone, hnil]
        refine .across fun x rest h => ?_
        exact Nat.lt_of_le_of_lt ((hcons ')' (counts_closing f)).suffix h).length_le (by decide)
      · rw [hfirst]
        exact (hcons c hc).agrees behind
    · rw [hshort, hlong, hnil]
      exact .apart rfl

end

end Local

end RestSuite.Pattern
