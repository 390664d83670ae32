import RestSuite.Pattern.Read
import RestSuite.Proofs.Pattern.Signs
import RestSuite.Proofs.Pattern.Takes

/-!
# Patterns in a group

A pattern that has to take a whole text is read from its own text in a group between the two ends of the
text. Reading it there is compared with reading it alone. Below the innermost group a step sees nothing, so
a reading is the same with a group around it until it closes more groups than it has opened; and as no sign
depends on what follows, the end of the group is left for the group, unless a comment swallows it.

* **`Reader.Reaches`**, **`Reader.Runs`** — a reading as a sequence of steps, without a bound on them.
* **`Reader.step_within`**, **`Reader.Reaches.within`** — what a group around a reading changes.
* **`Reader.Reaches.append`** — what something behind a reading changes.
* **`Reader.Reaches.of_wrapped`** — a reading with both comes from a reading alone, or closes the group.
* **`Pattern.Oversteps`**, **`Pattern.HidesClosing`** — the texts that mean something else in a group.
* **`Pattern.eq_whole_of_anchored`**, **`Pattern.accepted_iff`** — what becomes of the others.
-/

namespace RestSuite.Pattern

namespace Reader

variable {r r' last : Reader} {cs rest after : List Char} {base : Level}

/-! ## Readings -/

/-- A reader comes to a place in a text, in some steps. -/
inductive Reaches : Reader → List Char → Reader → List Char → Prop where
  | refl (r : Reader) (cs : List Char) : Reaches r cs r cs
  | next {r r' last : Reader} {cs behind after rest : List Char} {c : Char}
      (hskip : r.flags.skip cs = c :: behind) (hstep : r.step (c :: behind) = some (r', after))
      (hmore : Reaches r' after last rest) : Reaches r cs last rest

/-- A reader reads a text to its end. -/
def Runs (r : Reader) (cs : List Char) (last : Reader) : Prop :=
  ∃ rest, Reaches r cs last rest ∧ last.flags.skip rest = []

theorem Runs.of_skip_nil (h : r.flags.skip cs = []) : Runs r cs last ↔ last = r := by
  constructor
  · rintro ⟨rest, hreaches, -⟩
    cases hreaches with
    | refl => rfl
    | next hskip => cases h.symm.trans hskip
  · rintro rfl
    exact ⟨cs, .refl _ _, h⟩

theorem Runs.of_step {c : Char} {behind : List Char} (hskip : r.flags.skip cs = c :: behind)
    (hstep : r.step (c :: behind) = some (r', after)) : Runs r cs last ↔ Runs r' after last := by
  constructor
  · rintro ⟨rest, hreaches, hrest⟩
    cases hreaches with
    | refl => cases hskip.symm.trans hrest
    | next hskip' hstep' hmore =>
      cases hskip.symm.trans hskip'
      cases hstep.symm.trans hstep'
      exact ⟨rest, hmore, hrest⟩
  · rintro ⟨rest, hreaches, hrest⟩
    exact ⟨rest, .next hskip hstep hreaches, hrest⟩

theorem not_runs_of_step {c : Char} {behind : List Char} (hskip : r.flags.skip cs = c :: behind)
    (hstep : r.step (c :: behind) = none) : ¬ Runs r cs last := by
  rintro ⟨rest, hreaches, hrest⟩
  cases hreaches with
  | refl => cases hskip.symm.trans hrest
  | next hskip' hstep' =>
    cases hskip.symm.trans hskip'
    cases hstep.symm.trans hstep'

/-- **A number of steps that is great enough bounds nothing.** -/
theorem run_eq_some_iff {n : Nat} (hn : cs.length ≤ n) : run n r cs = some last ↔ Runs r cs last := by
  induction n generalizing r cs with
  | zero =>
    obtain rfl : cs = [] := List.length_eq_zero_iff.1 (by omega)
    rw [Runs.of_skip_nil (skip_nil _), run, skip_nil]
    simp [eq_comm]
  | succ n ih =>
    rw [run]
    cases hskip : r.flags.skip cs with
    | nil =>
      rw [Runs.of_skip_nil hskip]
      simp [eq_comm]
    | cons c behind =>
      dsimp only
      cases hstep : r.step (c :: behind) with
      | none => exact iff_of_false nofun (not_runs_of_step hskip hstep)
      | some read =>
        obtain ⟨r', after⟩ := read
        have hafter := ((local_step_cons r c).suffix hstep).length_le
        have hbehind := (skip_suffix r.flags cs).length_le
        rw [hskip, List.length_cons] at hbehind
        rw [Runs.of_step hskip hstep]
        exact ih (by omega)

/-! ## Below a reading -/

/-- The same reading, with a group around everything. -/
def within (r : Reader) (base : Level) : Reader :=
  { r with outer := r.outer ++ [base] }

theorem openNamed_within : (r.within base).openNamed cs =
    (r.openNamed cs).map fun (r, after) => (r.within base, after) := by
  unfold openNamed
  dsimp only
  split
  · split
    · next hok => exact (if_pos hok).symm ▸ rfl
    · next hok => exact (if_neg hok).symm ▸ rfl
  · rfl

theorem readFlagGroup_within : (r.within base).readFlagGroup cs =
    (r.readFlagGroup cs).map fun (r, after) => (r.within base, after) := by
  unfold readFlagGroup
  dsimp only [within]
  split <;> rfl

theorem readGroup_within : (r.within base).readGroup cs =
    (r.readGroup cs).map fun (r, after) => (r.within base, after) := by
  unfold readGroup
  dsimp only [within]
  split
  · unfold readMark
    split
    · exact openNamed_within
    · rfl
    · rfl
    · exact openNamed_within
    · exact readFlagGroup_within
  · rfl

theorem repeatBySign_within {least : Nat} {most : Option Nat} :
    (r.within base).repeatBySign least most cs =
      (r.repeatBySign least most cs).map fun (r, after) => (r.within base, after) := by
  unfold repeatBySign repeatLast
  dsimp only [within]
  split <;> rfl

theorem repeatByCount_within : (r.within base).repeatByCount cs =
    (r.repeatByCount cs).map fun (r, after) => (r.within base, after) := by
  have hread : ∀ {least : Nat} {most : Option Nat} {cs : List Char},
      (r.within base).repeatUpTo least most cs =
        (r.repeatUpTo least most cs).map fun (r, after) => (r.within base, after) := by
    intro least most cs
    unfold repeatUpTo
    split
    · split
      · rfl
      · exact repeatBySign_within
    · rfl
  unfold repeatByCount
  simp only [hread]
  change (readCount r.flags (r.flags.skip cs) >>= fun _ => _) = _
  cases readCount r.flags (r.flags.skip cs) with
  | none => rfl
  | some least =>
    change (readMost r.flags least.1 least.2 >>= fun _ => _) =
      Option.map _ (readMost r.flags least.1 least.2 >>= fun _ => _)
    cases readMost r.flags least.1 least.2 <;> rfl

theorem addEscape_within {e : Escape} :
    (r.within base).addEscape e = (r.addEscape e).within base := by
  cases e <;> rfl

/-- **A reading does not depend on what is around it** as long as it closes no group but its own. -/
theorem step_within {c : Char} (h : c = ')' → r.outer ≠ []) :
    (r.within base).step (c :: cs) =
      (r.step (c :: cs)).map fun (r, after) => (r.within base, after) := by
  by_cases hc : c ∈ signs
  · simp only [signs, List.mem_cons, List.not_mem_nil, or_false] at hc
    rcases hc with rfl | rfl | rfl | rfl | rfl | rfl | rfl | rfl | rfl | rfl | rfl | rfl
    · exact readGroup_within
    · have houter := h rfl
      rw [step_close, step_close]
      unfold closeGroup?
      cases hopen : r.outer with
      | nil => exact absurd hopen houter
      | cons parent more => simp [within, hopen]
    · rfl
    · rw [step_class, step_class]
      rw [Option.map_map]
      rfl
    · exact repeatBySign_within
    · exact repeatBySign_within
    · exact repeatBySign_within
    · exact repeatByCount_within
    · rw [step_escape, step_escape, Option.map_map]
      exact congrArg (Option.map · _) (funext fun read => congrArg (·, read.2) addEscape_within)
    · rw [step_dot, step_dot, Option.map_map]
      rfl
    · rfl
    · rfl
  · rw [step_other hc, step_other hc]
    rfl

theorem Reaches.within (h : Reaches r cs last rest) (base : Level) :
    Reaches (r.within base) cs (last.within base) rest := by
  induction h with
  | refl r cs => exact .refl _ _
  | @next r r' last cs behind after rest c hskip hstep _ ih =>
    refine .next hskip ?_ ih
    rw [step_within, hstep]
    · rfl
    · rintro rfl hnone
      rw [step_close, closeGroup?, hnone] at hstep
      cases hstep

/-! ## Behind a reading -/

/-- **What follows is left over** when a text has been read, if it is not taken for a part of a comment. -/
theorem Reaches.append (h : Reaches r cs last rest) :
    Reaches r (cs ++ closing) last (rest ++ closing)
      ∨ rest = [] ∧ Reaches r (cs ++ closing) last [] := by
  induction h with
  | refl r cs => exact .inl (.refl _ _)
  | @next r r' last cs behind after rest c hskip hstep hmore ih =>
    have hlong : r.flags.skip (cs ++ closing) = c :: (behind ++ closing) := by
      rcases skip_append r.flags cs with h | ⟨h, -⟩
      · rw [h, hskip, List.cons_append]
      · cases hskip.symm.trans h
    have hagrees := (local_step_cons r c).agrees behind
    rw [hstep] at hagrees
    generalize hread : r.step (c :: (behind ++ closing)) = long at hagrees
    cases hagrees with
    | apart heq =>
      cases heq
      exact ih.imp (.next hlong hread) (And.imp_right (.next hlong hread))
    | swallowed =>
      right
      cases hmore with
      | refl => exact ⟨rfl, .next hlong hread (.refl _ _)⟩
      | next hskip' => cases (skip_nil _).symm.trans hskip'

/-- The text is read up to a closing parenthesis to which there is no opening one. -/
def Oversteps (r : Reader) (cs : List Char) : Prop :=
  ∃ last rest after, Reaches r cs last rest ∧ last.flags.skip rest = ')' :: after ∧ last.outer = []

/-! ## The level of the whole pattern -/

/-- What stays as it is below the innermost group. -/
inductive Moves (r r' : Reader) : Prop where
  | stays (hindex : r'.current.index = r.current.index)
      (hflags : r'.current.outerFlags = r.current.outerFlags) (houter : r'.outer = r.outer)
  | opens (houter : r'.outer = r.current :: r.outer)
  | closes {parent : Level} (houter : r.outer = parent :: r'.outer)
      (hindex : r'.current.index = parent.index)
      (hflags : r'.current.outerFlags = parent.outerFlags)

theorem moves_of_openNamed (h : r.openNamed cs = some (r', after)) : Moves r r' := by
  unfold openNamed at h
  dsimp only at h
  split at h
  · split at h <;> cases h
    exact .opens rfl
  · cases h

theorem moves_of_readGroup (h : r.readGroup cs = some (r', after)) : Moves r r' := by
  unfold readGroup at h
  split at h
  · unfold readMark at h
    split at h
    · exact moves_of_openNamed h
    · cases h
    · cases h
    · exact moves_of_openNamed h
    · unfold readFlagGroup at h
      split at h <;> cases h
      · exact .opens rfl
      · exact .stays rfl rfl rfl
  · cases h
    exact .opens rfl

theorem moves_of_repeatBySign {least : Nat} {most : Option Nat}
    (h : r.repeatBySign least most cs = some (r', after)) : Moves r r' := by
  obtain ⟨r'', hrepeat, heq⟩ := Option.map_eq_some_iff.1 h
  cases heq
  unfold repeatLast at hrepeat
  split at hrepeat
  · cases hrepeat
    exact .stays rfl rfl rfl
  · cases hrepeat

theorem moves_of_repeatByCount (h : r.repeatByCount cs = some (r', after)) : Moves r r' := by
  obtain ⟨⟨least, behind⟩, -, h⟩ := Option.bind_eq_some_iff.1 h
  obtain ⟨⟨most, behind⟩, -, h⟩ := Option.bind_eq_some_iff.1 h
  dsimp only [repeatUpTo] at h
  split at h
  · split at h
    · cases h
    · exact moves_of_repeatBySign h
  · cases h

/-- **What a step can do**: it adds to the group in hand, opens a group or closes one. -/
theorem moves_of_step {c : Char} (h : r.step (c :: cs) = some (r', after)) : Moves r r' := by
  by_cases hc : c ∈ signs
  · simp only [signs, List.mem_cons, List.not_mem_nil, or_false] at hc
    rcases hc with rfl | rfl | rfl | rfl | rfl | rfl | rfl | rfl | rfl | rfl | rfl | rfl
    · exact moves_of_readGroup h
    · rw [step_close, closeGroup?] at h
      cases hopen : r.outer with
      | nil => simp [hopen] at h
      | cons parent more =>
        rw [hopen] at h
        cases h
        exact .closes hopen rfl rfl
    · cases h
      exact .stays rfl rfl rfl
    · rw [step_class] at h
      obtain ⟨p, -, heq⟩ := Option.map_eq_some_iff.1 h
      cases heq
      exact .stays rfl rfl rfl
    · exact moves_of_repeatBySign h
    · exact moves_of_repeatBySign h
    · exact moves_of_repeatBySign h
    · exact moves_of_repeatByCount h
    · rw [step_escape] at h
      obtain ⟨⟨e, behind⟩, -, heq⟩ := Option.map_eq_some_iff.1 h
      cases heq
      cases e <;> exact .stays rfl rfl rfl
    · rw [step_dot] at h
      obtain ⟨s, -, heq⟩ := Option.map_eq_some_iff.1 h
      cases heq
      exact .stays rfl rfl rfl
    · cases h
      exact .stays rfl rfl rfl
    · cases h
      exact .stays rfl rfl rfl
  · rw [step_other hc] at h
    cases h
    exact .stays rfl rfl rfl

theorem outer_of_close (h : r.step (')' :: cs) = some (r', after)) :
    after = cs ∧ ∃ parent, r.outer = parent :: r'.outer := by
  rw [step_close, closeGroup?] at h
  cases hopen : r.outer with
  | nil => simp [hopen] at h
  | cons parent more =>
    rw [hopen] at h
    cases h
    exact ⟨rfl, parent, rfl⟩

/-- The level of the whole pattern. -/
def bottom (r : Reader) : Level := r.outer.getLast?.getD r.current

theorem Moves.bottom (h : Moves r r') :
    r'.bottom.index = r.bottom.index ∧ r'.bottom.outerFlags = r.bottom.outerFlags := by
  unfold Reader.bottom
  cases h with
  | stays hindex hflags houter =>
    rw [houter]
    cases r.outer.getLast? with
    | none => exact ⟨hindex, hflags⟩
    | some l => exact ⟨rfl, rfl⟩
  | opens houter =>
    rw [houter, List.getLast?_cons]
    exact ⟨rfl, rfl⟩
  | closes houter hindex hflags =>
    rw [houter, List.getLast?_cons]
    cases r'.outer.getLast? with
    | none => exact ⟨hindex, hflags⟩
    | some l => exact ⟨rfl, rfl⟩

theorem Reaches.bottom (h : Reaches r cs last rest) :
    last.bottom.index = r.bottom.index ∧ last.bottom.outerFlags = r.bottom.outerFlags := by
  induction h with
  | refl => exact ⟨rfl, rfl⟩
  | next _ hstep _ ih =>
    have hmoves := (moves_of_step hstep).bottom
    exact ⟨ih.1.trans hmoves.1, ih.2.trans hmoves.2⟩

/-! ## Around and behind a reading -/

/-- The last sign of what follows opens and closes nothing. -/
theorem Reaches.outer_of_end (h : Reaches r cs last rest) (hcs : cs <:+ ['$']) :
    last.outer = r.outer := by
  have hend : ∀ {r last : Reader} {rest : List Char}, Reaches r [] last rest → last = r := by
    intro r last rest h
    cases h with
    | refl => rfl
    | next hskip => cases (skip_nil _).symm.trans hskip
  rcases List.suffix_cons_iff.1 hcs with rfl | hcs
  · cases h with
    | refl => rfl
    | next hskip hstep hmore =>
      have hsign : r.flags.skip ['$'] = ['$'] := by
        have hblank : Text.isBlank '$' = false := by decide
        unfold Flags.skip
        split
        · simp [Flags.dropBlanks, hblank]
        · rfl
      cases hsign.symm.trans hskip
      cases hstep
      rw [hend hmore]
      rfl
  · rw [List.suffix_nil.1 hcs] at h
    rw [hend h]

/-- **Where a reading ends that has a group around it and what follows behind it.** If the group is closed
at the end, either the text oversteps or what follows closes it, behind all of the text. Induction on the
reading. -/
theorem Reaches.of_wrapped {whole : List Char} (h : Reaches (r.within base) whole last rest)
    (hwhole : whole = cs ++ closing) (hrest : last.flags.skip rest = []) (hlast : last.outer = []) :
    r.Oversteps cs ∨ ∃ r', Runs r cs r' ∧ r'.outer = [] ∧ Runs (r'.within base) closing last := by
  generalize hr : r.within base = start at h
  induction h generalizing r cs with
  | refl start cs' =>
    subst hr
    simp [Reader.within] at hlast
  | @next start r₁ last whole behind after rest c hskip hstep hmore ih =>
    subst hr hwhole
    have hskip : r.flags.skip (cs ++ closing) = c :: behind := hskip
    rcases skip_append r.flags cs with happend | ⟨-, hnil⟩
    · rw [happend] at hskip
      cases hcs : r.flags.skip cs with
      | nil =>
        -- what follows begins here
        rw [hcs, List.nil_append] at hskip
        refine .inr ⟨r, ⟨cs, .refl _ _, hcs⟩, ?_, rest, .next ?_ hstep hmore, hrest⟩
        · obtain ⟨rfl, rfl⟩ := List.cons.inj hskip
          obtain ⟨hafter, parent, houter⟩ := outer_of_close hstep
          have hleft := hmore.outer_of_end (hafter ▸ List.suffix_rfl)
          have hlength := congrArg List.length houter
          rw [← hleft, hlast] at hlength
          simpa [Reader.within] using hlength
        · rw [← hskip]
          exact counts_closing r.flags ['$']
      | cons d ds =>
        rw [hcs] at hskip
        rw [List.cons_append] at hskip
        obtain ⟨rfl, rfl⟩ := List.cons.inj hskip
        by_cases hover : d = ')' ∧ r.outer = []
        · obtain ⟨rfl, houter⟩ := hover
          exact .inl ⟨r, cs, ds, .refl _ _, hcs, houter⟩
        · rw [step_within fun h houter => hover ⟨h, houter⟩] at hstep
          obtain ⟨⟨r₂, after₂⟩, hstep, heq⟩ := Option.map_eq_some_iff.1 hstep
          cases heq
          have hsuffix := (local_step_cons r d).suffix hstep
          have hagrees := (local_step_cons r d).agrees ds
          rw [hstep] at hagrees
          generalize hread : r.step (d :: ds) = short at hagrees
          -- a step into what follows leaves the group open
          have hopen : ¬ after <:+ ['$'] := by
            intro hend
            have houter := hmore.outer_of_end hend
            rw [hlast] at houter
            simp [Reader.within] at houter
          cases hagrees with
          | apart heq =>
            match short with
            | some (r₃, after') =>
              cases heq
              rcases ih rfl hrest hlast rfl with ⟨r', rest', more, hreaches, hclose, houter⟩ |
                ⟨r', ⟨rest', hreaches, hend⟩, hinner⟩
              · exact .inl ⟨r', rest', more, .next hcs hread hreaches, hclose, houter⟩
              · exact .inr ⟨r', ⟨rest', .next hcs hread hreaches, hend⟩, hinner⟩
          | across hacross =>
            have hless := hacross _ _ rfl
            have hend : after <:+ closing :=
              List.suffix_of_suffix_length_le hsuffix (List.suffix_append ds closing) (Nat.le_of_lt hless)
            rcases List.suffix_cons_iff.1 hend with rfl | hend
            · exact absurd hless (Nat.lt_irrefl _)
            · exact absurd hend hopen
          | swallowed => exact absurd (List.nil_suffix) hopen
    · cases hnil.symm.trans hskip

/-! ## From the start to the end -/

theorem Reaches.runs_iff (h : Reaches r cs r' rest) : Runs r cs last ↔ Runs r' rest last := by
  induction h with
  | refl => rfl
  | next hskip hstep _ ih => rw [Runs.of_step hskip hstep, ih]

theorem Runs.unique (h : Runs r cs last) (h' : Runs r cs r') : last = r' := by
  rw [← run_eq_some_iff (Nat.le_refl cs.length)] at h h'
  exact Option.some.inj (h.symm.trans h')

/-- What oversteps is refused. -/
theorem Oversteps.not_runs (h : r.Oversteps cs) : ¬ Runs r cs last := by
  obtain ⟨r', rest, after, hreaches, hclose, houter⟩ := h
  rw [hreaches.runs_iff]
  refine not_runs_of_step hclose ?_
  rw [step_close, closeGroup?, houter]
  rfl

/-- Behind a text that is read, either what follows stands there or nothing does. -/
theorem Runs.append (h : Runs r cs r') : ∃ rest, Reaches r (cs ++ closing) r' rest ∧
    (r'.flags.skip rest = closing ∨ r'.flags.skip rest = []) := by
  obtain ⟨rest, hreaches, hrest⟩ := h
  rcases hreaches.append with hreaches | ⟨-, hreaches⟩
  · refine ⟨_, hreaches, ?_⟩
    rcases skip_append r'.flags rest with h | ⟨-, h⟩
    · exact .inl (by rw [h, hrest, List.nil_append])
    · exact .inr h
  · exact ⟨_, hreaches, .inr (skip_nil _)⟩

/-- The level of the whole pattern, behind the sign for the start of the text. -/
def anchoredBase : Level := (start.add (.look .textStart) 0).current

theorem runs_anchored : Runs start (anchoredChars cs) last ↔
    Runs (start.within anchoredBase) (cs ++ closing) last := by
  have hstart : Runs start (anchoredChars cs) last ↔
      Runs (start.add (.look .textStart) 0) ('(' :: '?' :: ':' :: (cs ++ closing)) last :=
    Runs.of_step (c := '^') rfl rfl
  have hopen : Runs (start.add (.look .textStart) 0) ('(' :: '?' :: ':' :: (cs ++ closing)) last ↔
      Runs (start.within anchoredBase) (cs ++ closing) last :=
    Runs.of_step (c := '(') rfl rfl
  exact hstart.trans hopen

/-- What follows puts the pattern into a group between the ends of the text. -/
theorem runs_closing (houter : r.outer = []) (hindex : r.current.index = none)
    (hflags : r.current.outerFlags = .standard) (hskip : r.flags.skip cs = closing) :
    ∃ last, Runs (r.within anchoredBase) cs last ∧ last.outer = [] ∧
      last.current.whole = ⟨r.current.whole.pattern.whole, r.current.whole.nesting + 2⟩ := by
  let whole := r.current.whole
  let closed : Reader :=
    { r with
      flags := .standard
      current := anchoredBase.add (.group none whole.pattern) (whole.nesting + 1)
      outer := [] }
  have hclose : (r.within anchoredBase).step closing = some (closed, ['$']) := by
    have hbelow : (r.within anchoredBase).outer = [anchoredBase] := by
      rw [within, houter]
      rfl
    rw [closing, step_close, closeGroup?, hbelow]
    simp only [within, hindex, hflags]
    rfl
  -- the flags of the start hold again, so the last sign is the end of the text
  have hend : Runs closed ['$'] (closed.add (.look .textEnd) 0) :=
    (Runs.of_step rfl rfl).2 ((Runs.of_skip_nil rfl).2 rfl)
  have hskip : (r.within anchoredBase).flags.skip cs = closing := hskip
  refine ⟨closed.add (.look .textEnd) 0, (Runs.of_step hskip hclose).2 hend, rfl, ?_⟩
  simp [closed, whole, add, Level.add, anchoredBase, start, Level.fresh, Level.whole, Level.branch,
    sequence, choice, nestingOf, Pattern.whole]

end Reader

/-! ## Texts in a group -/

open Reader

variable {p q : Part} {cs : List Char}

/-- A text is read as a pattern, of whatever nesting and size. -/
def Reads (cs : List Char) (p : Part) : Prop :=
  ∃ last, Runs start cs last ∧ last.outer = [] ∧ last.current.whole = p

/-- A text closes a group that it has not opened. -/
def Oversteps (cs : List Char) : Prop := start.Oversteps cs

/-- A text ends in a comment, which what follows belongs to. -/
def HidesClosing (cs : List Char) : Prop :=
  ∃ p, Reads cs p ∧ Reads (cs ++ closing) p

/-- A pattern in a group between the ends of a text. -/
def Part.anchored (p : Part) : Part := ⟨p.pattern.whole, p.nesting + 2⟩

/-- Nesting and size are within the limits. -/
def Part.Fits (p : Part) : Prop :=
  p.nesting ≤ nestingLimit ∧ p.pattern.isTooLarge = false

theorem Reads.unique (h : Reads cs p) (h' : Reads cs q) : p = q := by
  obtain ⟨last, hruns, -, rfl⟩ := h
  obtain ⟨last', hruns', -, rfl⟩ := h'
  rw [hruns.unique hruns']

theorem Oversteps.not_reads (h : Oversteps cs) : ¬ Reads cs p := by
  rintro ⟨last, hruns, -⟩
  exact Reader.Oversteps.not_runs h hruns

/-- **A text in a group between the ends of a text** is read as its pattern there, unless it hides the end
of the group; or it closes the group itself. -/
theorem reads_anchored_iff : Reads (anchoredChars cs) q ↔
    (∃ p, Reads cs p ∧ ¬ HidesClosing cs ∧ p.anchored = q)
      ∨ Oversteps cs ∧ Reads (anchoredChars cs) q := by
  -- the innermost group is the whole pattern where a text ends that is read
  have hbottom : ∀ {r : Reader}, Runs start cs r → r.outer = [] →
      r.current.index = none ∧ r.current.outerFlags = .standard := by
    rintro r ⟨rest, hreaches, -⟩ houter
    have h := hreaches.bottom
    simpa [Reader.bottom, houter, start, Level.fresh] using h
  constructor
  · rintro ⟨last, hruns, hlast, rfl⟩
    have hinner := hruns
    rw [runs_anchored] at hinner
    obtain ⟨rest, hreaches, hrest⟩ := hinner
    rcases hreaches.of_wrapped rfl hrest hlast with hover | ⟨r, hr, houter, hclose⟩
    · exact .inr ⟨hover, last, hruns, hlast, rfl⟩
    · left
      obtain ⟨hindex, hflags⟩ := hbottom hr houter
      obtain ⟨last', hruns', -, hwhole⟩ :=
        runs_closing houter hindex hflags (counts_closing r.flags ['$'])
      refine ⟨r.current.whole, ⟨r, hr, houter, rfl⟩, ?_, ?_⟩
      · rintro ⟨p, hp, last₂, hlong, houter₂, hp₂⟩
        obtain ⟨more, hmore, hskip⟩ := hr.append
        rcases hskip with hskip | hskip
        · -- the closing sign has no group to close
          refine absurd hlong ?_
          rw [hmore.runs_iff]
          refine not_runs_of_step hskip ?_
          rw [step_close, closeGroup?, houter]
          rfl
        · -- with a group around the text, that group stays open
          rw [runs_anchored, (hmore.within anchoredBase).runs_iff,
            Runs.of_skip_nil (r := r.within anchoredBase) hskip] at hruns
          rw [hruns] at hlast
          simp [Reader.within] at hlast
      · rw [hclose.unique hruns', hwhole]
        rfl
  · rintro (⟨p, ⟨r, hr, houter, rfl⟩, hhides, rfl⟩ | ⟨-, h⟩)
    · obtain ⟨rest, hreaches, hskip⟩ := hr.append
      obtain ⟨hindex, hflags⟩ := hbottom hr houter
      rcases hskip with hskip | hskip
      · obtain ⟨last, hruns, hlast, hwhole⟩ := runs_closing houter hindex hflags hskip
        refine ⟨last, runs_anchored.2 ?_, hlast, hwhole⟩
        rwa [(hreaches.within anchoredBase).runs_iff]
      · refine absurd ⟨_, ⟨r, hr, houter, rfl⟩, r, ?_, houter, rfl⟩ hhides
        rw [hreaches.runs_iff, Runs.of_skip_nil hskip]
    · exact h

theorem ofChars?_eq_some_iff {pattern : Pattern} :
    ofChars? cs = some pattern ↔ ∃ p, Reads cs p ∧ p.nesting ≤ nestingLimit ∧ p.pattern = pattern := by
  change (run cs.length start cs).bind _ = _ ↔ _
  rw [Option.bind_eq_some_iff]
  simp only [run_eq_some_iff (Nat.le_refl cs.length), finish?]
  constructor
  · rintro ⟨last, hruns, hfinish⟩
    split at hfinish
    · next hok =>
      rw [Bool.and_eq_true, List.isEmpty_iff, decide_eq_true_eq] at hok
      exact ⟨_, ⟨last, hruns, hok.1, rfl⟩, hok.2, Option.some.inj hfinish⟩
    · cases hfinish
  · rintro ⟨p, ⟨last, hruns, houter, rfl⟩, hnesting, rfl⟩
    exact ⟨last, hruns, if_pos (by simp [houter, hnesting])⟩

/-- **A text is a pattern** if it is read as one that is within the limits. -/
theorem ofChars_eq_ok_iff {pattern : Pattern} :
    ofChars cs = .ok pattern ↔ ∃ p, Reads cs p ∧ p.Fits ∧ p.pattern = pattern := by
  unfold ofChars
  have hread : ∀ {p : Part}, Reads cs p → p.nesting ≤ nestingLimit → ofChars? cs = some p.pattern :=
    fun hp hnesting => ofChars?_eq_some_iff.2 ⟨_, hp, hnesting, rfl⟩
  constructor
  · intro h
    split at h
    · cases h
    · next hsome =>
      obtain ⟨p, hp, hnesting, rfl⟩ := ofChars?_eq_some_iff.1 hsome
      split at h <;> cases h
      next hsize => exact ⟨p, hp, ⟨hnesting, Bool.eq_false_iff.2 hsize⟩, rfl⟩
  · rintro ⟨p, hp, ⟨hnesting, hsize⟩, rfl⟩
    rw [hread hp hnesting]
    exact if_neg (Bool.eq_false_iff.1 hsize)

section

variable {text : String} {pattern anchoredPattern : Pattern}

/-- A text in a group is a pattern if it is read and hides nothing, or if it closes the group itself. -/
theorem anchored_eq_ok_iff : anchored text = .ok pattern ↔
    (∃ p, Reads text.toList p ∧ ¬ HidesClosing text.toList ∧ p.anchored.Fits
        ∧ p.pattern.whole = pattern)
      ∨ Oversteps text.toList ∧ anchored text = .ok pattern := by
  refine ⟨fun h => ?_, fun h => ?_⟩
  · obtain ⟨q, hq, hfits, rfl⟩ := ofChars_eq_ok_iff.1 h
    rcases reads_anchored_iff.1 hq with ⟨p, hp, hhides, rfl⟩ | ⟨hover, -⟩
    · exact .inl ⟨p, hp, hhides, hfits, rfl⟩
    · exact .inr ⟨hover, h⟩
  · rcases h with ⟨p, hp, hhides, hfits, rfl⟩ | ⟨-, h⟩
    · exact ofChars_eq_ok_iff.2 ⟨p.anchored, reads_anchored_iff.2 (.inl ⟨p, hp, hhides, rfl⟩), hfits, rfl⟩
    · exact h

/-- **A text that is a pattern both alone and between the ends of a text** is the same one there, put into
a group. -/
theorem eq_whole_of_anchored (h : ofString text = .ok pattern)
    (h' : anchored text = .ok anchoredPattern) : anchoredPattern = pattern.whole := by
  obtain ⟨p, hp, -, rfl⟩ := ofChars_eq_ok_iff.1 h
  rcases anchored_eq_ok_iff.1 h' with ⟨q, hq, -, -, rfl⟩ | ⟨hover, -⟩
  · rw [hp.unique hq]
  · exact absurd hp hover.not_reads

/-- **Which texts are patterns between the ends of a text if and only if they are patterns alone.** -/
theorem accepted_iff (text : String) :
    ((∃ p, ofString text = .ok p) ↔ ∃ p, anchored text = .ok p) ↔
      (∀ p, Reads text.toList p → (p.Fits ↔ p.anchored.Fits ∧ ¬ HidesClosing text.toList))
        ∧ (Oversteps text.toList → ∀ p, anchored text ≠ .ok p) := by
  have halone : ∀ {p : Part}, Reads text.toList p → ((∃ p, ofString text = .ok p) ↔ p.Fits) := by
    intro p hp
    constructor
    · rintro ⟨_, h⟩
      obtain ⟨q, hq, hfits, -⟩ := ofChars_eq_ok_iff.1 h
      exact hp.unique hq ▸ hfits
    · exact fun hfits => ⟨_, ofChars_eq_ok_iff.2 ⟨p, hp, hfits, rfl⟩⟩
  have hinside : ∀ {p : Part}, Reads text.toList p →
      ((∃ p, anchored text = .ok p) ↔ p.anchored.Fits ∧ ¬ HidesClosing text.toList) := by
    intro p hp
    constructor
    · rintro ⟨_, h⟩
      rcases anchored_eq_ok_iff.1 h with ⟨q, hq, hhides, hfits, -⟩ | ⟨hover, -⟩
      · exact ⟨hp.unique hq ▸ hfits, hhides⟩
      · exact absurd hp hover.not_reads
    · exact fun ⟨hfits, hhides⟩ => ⟨_, anchored_eq_ok_iff.2 (.inl ⟨p, hp, hhides, hfits, rfl⟩)⟩
  constructor
  · refine fun h => ⟨fun p hp => (halone hp).symm.trans (h.trans (hinside hp)), fun hover q hq => ?_⟩
    obtain ⟨_, h⟩ := h.2 ⟨q, hq⟩
    obtain ⟨p, hp, -⟩ := ofChars_eq_ok_iff.1 h
    exact hover.not_reads hp
  · rintro ⟨hreads, hover⟩
    by_cases hread : ∃ p, Reads text.toList p
    · obtain ⟨p, hp⟩ := hread
      exact (halone hp).trans ((hreads p hp).trans (hinside hp).symm)
    · refine iff_of_false ?_ ?_
      · rintro ⟨_, h⟩
        obtain ⟨p, hp, -⟩ := ofChars_eq_ok_iff.1 h
        exact hread ⟨p, hp⟩
      · rintro ⟨q, h⟩
        rcases anchored_eq_ok_iff.1 h with ⟨p, hp, -⟩ | ⟨hovers, -⟩
        · exact hread ⟨p, hp⟩
        · exact hover hovers q h

/-- A comment swallows the end of the group. -/
example : (ofString "(?x) 20 # 2").isOk = true ∧ (anchored "(?x) 20 # 2").isOk = false := by
  decide +kernel

end

end RestSuite.Pattern
