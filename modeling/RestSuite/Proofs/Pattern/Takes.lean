import RestSuite.Pattern.Reach

/-!
# What a pattern takes

Which parts of a text a pattern takes is said here construct by construct, without sets of places. The
search for a match works on such sets and cuts repetitions short; it finds the same.

* **`Pattern.Rounds`**, **`Pattern.Takes`** — what repetitions and patterns take between two places.
* **`Pattern.Rounds.stable`** — more rounds than there are characters take what any greater number does.
* **`Pattern.mem_reach_iff`** — the places that are computed are those that a pattern can take a text to.
* **`Pattern.isMatch_iff`** — so there is a match exactly if some part of the text is taken.
-/

namespace RestSuite.Pattern

/-- A step is taken a number of times. -/
def Rounds (step : Nat → Nat → Prop) : Nat → Nat → Nat → Prop
  | 0, i, j => i = j
  | n + 1, i, j => ∃ k, step i k ∧ Rounds step n k j

/-- A pattern takes the part of a text between two places, where it stands there. A repetition that has
its greatest number below its least one is made the least number of times. -/
def Takes (text : Array Char) : Pattern → Nat → Nat → Prop
  | .empty, i, j => i = j
  | .chars s, i, j => (∃ c, text[i]? = some c ∧ s.contains c = true) ∧ j = i + 1
  | .look a, i, j => a.holds text i = true ∧ i = j
  | .seq p q, i, j => ∃ k, Takes text p i k ∧ Takes text q k j
  | .alt p q, i, j => Takes text p i j ∨ Takes text q i j
  | .repeated p least most _, i, j =>
    ∃ n, least ≤ n ∧ (∀ m ∈ most, n ≤ max least m) ∧ Rounds (Takes text p) n i j
  | .group _ p, i, j => Takes text p i j

/-- A pattern takes a text from its first to its last character. -/
def TakesWhole (p : Pattern) (text : String) : Prop :=
  p.Takes text.toList.toArray 0 text.length

variable {text : Array Char} {step : Nat → Nat → Prop} {i j k n m : Nat}

/-! ## Rounds -/

namespace Rounds

theorem mono (hmono : ∀ i j, step i j → i ≤ j) (h : Rounds step n i j) : i ≤ j := by
  induction n generalizing i with
  | zero => exact Nat.le_of_eq h
  | succ n ih =>
    obtain ⟨k, hstep, hmore⟩ := h
    exact Nat.le_trans (hmono i k hstep) (ih hmore)

theorem append (h : Rounds step n i k) (h' : Rounds step m k j) : Rounds step (n + m) i j := by
  induction n generalizing i with
  | zero =>
    cases (h : i = k)
    rwa [Nat.zero_add]
  | succ n ih =>
    obtain ⟨l, hstep, hmore⟩ := h
    rw [Nat.succ_add]
    exact ⟨l, hstep, ih hmore⟩

theorem split (h : Rounds step (n + m) i j) : ∃ k, Rounds step n i k ∧ Rounds step m k j := by
  induction n generalizing i with
  | zero => exact ⟨i, rfl, by rwa [Nat.zero_add] at h⟩
  | succ n ih =>
    rw [Nat.succ_add] at h
    obtain ⟨l, hstep, hmore⟩ := h
    obtain ⟨k, hfront, hback⟩ := ih hmore
    exact ⟨k, ⟨l, hstep, hfront⟩, hback⟩

/-- Of more rounds than there are places to go, one stays where it is; it can be left out or be made
once more. -/
theorem pump (hmono : ∀ i j, step i j → i ≤ j) (hn : j < i + n) (h : Rounds step n i j) :
    Rounds step (n - 1) i j ∧ Rounds step (n + 1) i j := by
  induction n generalizing i with
  | zero =>
    have hij : i = j := h
    omega
  | succ n ih =>
    have hround := h
    obtain ⟨k, hstep, hmore⟩ := h
    by_cases hk : k = i
    · subst hk
      exact ⟨hmore, k, hstep, hround⟩
    · have hik := hmono i k hstep
      obtain ⟨hless, hagain⟩ := ih (i := k) (by omega) hmore
      have hkj := hmore.mono hmono
      -- a round is left, since the step to `k` has not gone all the way
      have hn : n = n - 1 + 1 := by omega
      refine ⟨?_, k, hstep, hagain⟩
      rw [Nat.add_sub_cancel, hn]
      exact ⟨k, hstep, hless⟩

/-- **More rounds than there are characters take what any greater number of rounds does.** -/
theorem stable (hmono : ∀ i j, step i j → i ≤ j) (hj : j < n) (hnm : n ≤ m) :
    Rounds step n i j ↔ Rounds step m i j := by
  induction hnm with
  | refl => rfl
  | @step m hnm ih =>
    have hm : n ≤ m := hnm
    rw [ih]
    constructor
    · exact fun h => (pump hmono (by omega) h).2
    · exact fun h => (pump hmono (by omega) h).1

end Rounds

/-! ## Places go forward -/

theorem Takes.mono {p : Pattern} (h : p.Takes text i j) : i ≤ j := by
  induction p generalizing i j with
  | empty => exact Nat.le_of_eq h
  | chars s => exact h.2 ▸ Nat.le_succ i
  | look a => exact Nat.le_of_eq h.2
  | seq p q ihp ihq =>
    obtain ⟨k, hp, hq⟩ := h
    exact Nat.le_trans (ihp hp) (ihq hq)
  | alt p q ihp ihq => exact h.elim ihp ihq
  | repeated p least most greedy ih =>
    obtain ⟨n, -, -, hrounds⟩ := h
    exact hrounds.mono fun _ _ => ih
  | group index p ih => exact ih h

theorem Rounds.le_size (hsize : ∀ i j, step i j → i ≤ text.size → j ≤ text.size)
    (h : Rounds step n i j) (hi : i ≤ text.size) : j ≤ text.size := by
  induction n generalizing i with
  | zero => exact (h : i = j) ▸ hi
  | succ n ih =>
    obtain ⟨k, hstep, hmore⟩ := h
    exact ih hmore (hsize i k hstep hi)

theorem Takes.le_size {p : Pattern} (h : p.Takes text i j) (hi : i ≤ text.size) : j ≤ text.size := by
  induction p generalizing i j with
  | empty => exact (h : i = j) ▸ hi
  | chars s =>
    obtain ⟨⟨c, hc, -⟩, rfl⟩ := h
    exact (Array.getElem?_eq_some_iff.1 hc).1
  | look a => exact h.2 ▸ hi
  | seq p q ihp ihq =>
    obtain ⟨k, hp, hq⟩ := h
    exact ihq hq (ihp hp hi)
  | alt p q ihp ihq => exact h.elim (ihp · hi) (ihq · hi)
  | repeated p least most greedy ih =>
    obtain ⟨n, -, -, hrounds⟩ := h
    exact hrounds.le_size (fun _ _ => ih) hi
  | group index p ih => exact ih h hi

/-! ## Sets of places -/

namespace Places

variable {s t : Places}

/-- The places of a set stand in ascending order. -/
def Ascending (s : Places) : Prop :=
  s.Pairwise (· < ·)

theorem mem_union : i ∈ union s t ↔ i ∈ s ∨ i ∈ t := by
  fun_induction union s t with
  | case1 t => simp
  | case2 s => simp
  | case3 a s b t hlt ih =>
    simp only [List.mem_cons] at ih ⊢
    rw [ih, or_assoc]
  | case4 a s b t hlt hgt ih =>
    simp only [List.mem_cons] at ih ⊢
    rw [ih, or_left_comm]
  | case5 a s b t hlt hgt ih =>
    obtain rfl : a = b := by omega
    simp only [List.mem_cons, ih]
    grind

theorem ascending_union (hs : Ascending s) (ht : Ascending t) : Ascending (union s t) := by
  fun_induction union s t with
  | case1 t => exact ht
  | case2 s => exact hs
  | case3 a s b t hlt ih =>
    obtain ⟨hs, hrest⟩ := List.pairwise_cons.1 hs
    refine List.pairwise_cons.2 ⟨fun c hc => ?_, ih hrest ht⟩
    rcases mem_union.1 hc with hc | hc
    · exact hs c hc
    · rcases List.mem_cons.1 hc with rfl | hc
      · exact hlt
      · exact Nat.lt_trans hlt ((List.pairwise_cons.1 ht).1 c hc)
  | case4 a s b t hlt hgt ih =>
    obtain ⟨ht, hrest⟩ := List.pairwise_cons.1 ht
    refine List.pairwise_cons.2 ⟨fun c hc => ?_, ih hs hrest⟩
    rcases mem_union.1 hc with hc | hc
    · rcases List.mem_cons.1 hc with rfl | hc
      · exact hgt
      · exact Nat.lt_trans hgt ((List.pairwise_cons.1 hs).1 c hc)
    · exact ht c hc
  | case5 a s b t hlt hgt ih =>
    obtain ⟨hs, hs'⟩ := List.pairwise_cons.1 hs
    obtain ⟨ht, ht'⟩ := List.pairwise_cons.1 ht
    refine List.pairwise_cons.2 ⟨fun c hc => ?_, ih hs' ht'⟩
    rcases mem_union.1 hc with hc | hc
    · exact hs c hc
    · have hbc := ht c hc
      omega

theorem mem_without (hs : Ascending s) (ht : Ascending t) : i ∈ without s t ↔ i ∈ s ∧ i ∉ t := by
  fun_induction without s t with
  | case1 t => simp
  | case2 s => simp
  | case3 a s b t hlt ih =>
    obtain ⟨-, hs'⟩ := List.pairwise_cons.1 hs
    obtain ⟨ht', -⟩ := List.pairwise_cons.1 ht
    -- what is behind `b` is greater than `a` all the more
    have ha : a ∉ b :: t := by
      intro ha
      rcases List.mem_cons.1 ha with rfl | ha
      · omega
      · have hba := ht' a ha
        omega
    rw [List.mem_cons, ih hs' ht, List.mem_cons (l := s)]
    constructor
    · rintro (rfl | ⟨hi, hnot⟩)
      · exact ⟨.inl rfl, ha⟩
      · exact ⟨.inr hi, hnot⟩
    · rintro ⟨rfl | hi, hnot⟩
      · exact .inl rfl
      · exact .inr ⟨hi, hnot⟩
  | case4 a s b t hlt hgt ih =>
    obtain ⟨hs', -⟩ := List.pairwise_cons.1 hs
    obtain ⟨-, ht'⟩ := List.pairwise_cons.1 ht
    rw [ih hs ht', List.mem_cons (l := t), not_or]
    refine and_congr_right fun hi => ⟨fun hnot => ⟨?_, hnot⟩, And.right⟩
    rintro rfl
    rcases List.mem_cons.1 hi with rfl | hi
    · omega
    · have hab := hs' i hi
      omega
  | case5 a s b t hlt hgt ih =>
    obtain ⟨hs', hs''⟩ := List.pairwise_cons.1 hs
    obtain ⟨-, ht''⟩ := List.pairwise_cons.1 ht
    obtain rfl : a = b := by omega
    rw [ih hs'' ht'', List.mem_cons, List.mem_cons, not_or]
    constructor
    · rintro ⟨hi, hnot⟩
      have hai := hs' i hi
      exact ⟨.inr hi, by omega, hnot⟩
    · rintro ⟨rfl | hi, hne, hnot⟩
      · exact absurd rfl hne
      · exact ⟨hi, hnot⟩

theorem ascending_without (hs : Ascending s) : Ascending (without s t) := by
  have hsub : (without s t).Sublist s := by
    fun_induction without s t with
    | case1 t => exact List.Sublist.refl _
    | case2 s => exact List.Sublist.refl _
    | case3 a s b t hlt ih => exact (ih (List.pairwise_cons.1 hs).2).cons_cons a
    | case4 a s b t hlt hgt ih => exact ih hs
    | case5 a s b t hlt hgt ih => exact (ih (List.pairwise_cons.1 hs).2).cons a
  exact hs.sublist hsub

/-! ### Steps from sets of places -/

/-- The places of a set stand in ascending order and none is behind the last one. -/
structure Valid (last : Nat) (s : Places) : Prop where
  ascending : Ascending s
  le_last : ∀ i ∈ s, i ≤ last

/-- A function of sets of places does what a step does from each place. -/
structure Follows (last : Nat) (f : Places → Places) (step : Nat → Nat → Prop) : Prop where
  valid : ∀ {s}, Valid last s → Valid last (f s)
  mem : ∀ {s j}, Valid last s → (j ∈ f s ↔ ∃ i ∈ s, step i j)

variable {last : Nat} {f : Places → Places}

theorem Valid.union (hs : Valid last s) (ht : Valid last t) : Valid last (union s t) :=
  ⟨ascending_union hs.ascending ht.ascending,
    fun i hi => (mem_union.1 hi).elim (hs.le_last i) (ht.le_last i)⟩

theorem Valid.without (hs : Valid last s) (ht : Valid last t) : Valid last (without s t) :=
  ⟨ascending_without hs.ascending,
    fun i hi => hs.le_last i ((mem_without hs.ascending ht.ascending).1 hi).1⟩

theorem Follows.after (hf : Follows last f step) (n : Nat) :
    Follows last (after f n) (Rounds step n) := by
  induction n with
  | zero => exact ⟨id, fun _ => by simp [Places.after, Rounds]⟩
  | succ n ih =>
    constructor
    · intro s hs
      unfold Places.after
      split
      · exact ⟨List.Pairwise.nil, nofun⟩
      · exact ih.valid (hf.valid hs)
    · intro s j hs
      unfold Places.after
      split
      · next hempty => simp [List.isEmpty_iff.1 hempty]
      · rw [ih.mem (hf.valid hs)]
        simp only [hf.mem hs, Rounds]
        constructor
        · rintro ⟨k, ⟨i, hi, hik⟩, hkj⟩
          exact ⟨i, hi, k, hik, hkj⟩
        · rintro ⟨i, hi, k, hik, hkj⟩
          exact ⟨k, ⟨i, hi, hik⟩, hkj⟩

theorem Valid.within (hf : Follows last f step) (hs : Valid last s) (ht : Valid last t) :
    Valid last (within f n s t) := by
  induction n generalizing s t with
  | zero => exact hs
  | succ n ih =>
    have hnext := (hf.valid ht).without hs
    unfold Places.within
    dsimp only
    split
    · exact hs
    · exact ih (hs.union hnext) hnext

/-- What is found within some rounds is what they reach from all that was seen before. The places that
are not fresh do not lead out of it. Induction on the rounds. -/
theorem mem_within (hf : Follows last f step) (hs : Valid last s) (ht : Valid last t) (hfresh : t ⊆ s)
    (hold : ∀ i ∈ s, i ∉ t → ∀ j, step i j → j ∈ s) :
    j ∈ within f n s t ↔ ∃ i ∈ s, ∃ k ≤ n, Rounds step k i j := by
  induction n generalizing s t with
  | zero =>
    rw [within]
    constructor
    · exact fun hj => ⟨j, hj, 0, Nat.le_refl 0, rfl⟩
    · rintro ⟨i, hi, k, hk, hrounds⟩
      obtain rfl : k = 0 := by omega
      exact (hrounds : i = j) ▸ hi
  | succ n ih =>
    have hnext := (hf.valid ht).without hs
    have hmem : ∀ j, j ∈ without (f t) s ↔ (∃ i ∈ t, step i j) ∧ j ∉ s := fun j => by
      rw [mem_without (hf.valid ht).ascending hs.ascending, hf.mem ht]
    -- one step from what was seen leads to what was seen or to the next places
    have hstep : ∀ i ∈ s, ∀ j, step i j → j ∈ s ∨ j ∈ without (f t) s := by
      intro i hi j hij
      by_cases hj : j ∈ s
      · exact .inl hj
      · by_cases hit : i ∈ t
        · exact .inr ((hmem j).2 ⟨⟨i, hit, hij⟩, hj⟩)
        · exact .inl (hold i hi hit j hij)
    unfold within
    dsimp only
    split
    · next hempty =>
      rw [List.isEmpty_iff] at hempty
      constructor
      · exact fun hj => ⟨j, hj, 0, Nat.zero_le _, rfl⟩
      · rintro ⟨i, hi, k, -, hrounds⟩
        -- nothing leads out of what was seen
        induction k generalizing i with
        | zero => exact (hrounds : i = j) ▸ hi
        | succ k ihk =>
          obtain ⟨l, hil, hlj⟩ := hrounds
          rcases hstep i hi l hil with hl | hl
          · exact ihk l hl hlj
          · rw [hempty] at hl
            cases hl
    · rw [ih (hs.union hnext) hnext (fun i hi => mem_union.2 (.inr hi)) ?_]
      · constructor
        · rintro ⟨i, hi, k, hk, hrounds⟩
          rcases mem_union.1 hi with hi | hi
          · exact ⟨i, hi, k, by omega, hrounds⟩
          · obtain ⟨⟨i', hi', hstep'⟩, -⟩ := (hmem i).1 hi
            exact ⟨i', hfresh hi', k + 1, by omega, i, hstep', hrounds⟩
        · rintro ⟨i, hi, k, hk, hrounds⟩
          cases k with
          | zero => exact ⟨i, mem_union.2 (.inl hi), 0, Nat.zero_le n, hrounds⟩
          | succ k =>
            obtain ⟨l, hil, hlj⟩ := hrounds
            exact ⟨l, mem_union.2 (hstep i hi l hil), k, by omega, hlj⟩
      · intro i hi hnot j hij
        rcases mem_union.1 hi with hi | hi
        · exact mem_union.2 (hstep i hi j hij)
        · exact absurd hi hnot

end Places

/-! ## The places of a pattern -/

open Places

/-- Between the rounds that are counted and those that are meant lie only rounds that change nothing. -/
theorem rounds_cut {p : Pattern} {least : Nat} {most : Option Nat} (hi : i ≤ text.size) :
    (∃ k ≤ min ((most.map (· - least)).getD (text.size + 1)) (text.size + 1),
        Rounds (p.Takes text) (min least (text.size + 1) + k) i j) ↔
      ∃ n, least ≤ n ∧ (∀ m ∈ most, n ≤ max least m) ∧ Rounds (p.Takes text) n i j := by
  have hmono : ∀ i j, p.Takes text i j → i ≤ j := fun _ _ => Takes.mono
  have hlast : ∀ {n}, Rounds (p.Takes text) n i j → j ≤ text.size :=
    fun h => h.le_size (fun _ _ => Takes.le_size) hi
  have hmost : ∀ k, k ≤ (most.map (· - least)).getD (text.size + 1) →
      k ≤ text.size + 1 → ∀ m ∈ most, least + k ≤ max least m := by
    rintro k hk - m rfl
    simp only [Option.map_some, Option.getD_some] at hk
    omega
  rcases Nat.le_total least (text.size + 1) with hleast | hleast
  · rw [Nat.min_eq_left hleast]
    constructor
    · rintro ⟨k, hk, hrounds⟩
      exact ⟨least + k, by omega, hmost k (by omega) (by omega), hrounds⟩
    · rintro ⟨n, hn, hbound, hrounds⟩
      have hj := hlast hrounds
      by_cases hmany : n - least ≤ text.size + 1
      · refine ⟨n - least, ?_, by rwa [Nat.add_sub_cancel' hn]⟩
        cases most with
        | none => simpa using hmany
        | some m =>
          have hm := hbound m rfl
          simp only [Option.map_some, Option.getD_some]
          omega
      · -- the rounds that are left out here change nothing
        refine ⟨text.size + 1, ?_, (Rounds.stable hmono (by omega) (by omega)).2 hrounds⟩
        cases most with
        | none => simp
        | some m =>
          have hm := hbound m rfl
          simp only [Option.map_some, Option.getD_some]
          omega
  · rw [Nat.min_eq_right hleast]
    constructor
    · rintro ⟨k, hk, hrounds⟩
      have hj := hlast hrounds
      have hfirst := (Rounds.stable hmono (by omega) (Nat.le_add_right _ k)).2 hrounds
      exact ⟨least, Nat.le_refl _, fun m _ => Nat.le_max_left _ _,
        (Rounds.stable hmono (by omega) hleast).1 hfirst⟩
    · rintro ⟨n, hn, -, hrounds⟩
      have hj := hlast hrounds
      exact ⟨0, Nat.zero_le _, (Rounds.stable hmono (by omega) (Nat.le_trans hleast hn)).2 hrounds⟩

/-- **What is computed is what a pattern takes**, from each of some places. Induction on the pattern. -/
theorem follows_reach (text : Array Char) (p : Pattern) :
    Follows text.size (reach text p) (p.Takes text) := by
  -- no pattern goes behind the end of the text
  have hvalid : ∀ {p : Pattern} {s t}, Valid text.size s → Ascending t →
      (∀ j, j ∈ t ↔ ∃ i ∈ s, p.Takes text i j) → Valid text.size t := by
    intro p s t hs ht hmem
    refine ⟨ht, fun j hj => ?_⟩
    obtain ⟨i, hi, htakes⟩ := (hmem j).1 hj
    exact htakes.le_size (hs.le_last i hi)
  induction p with
  | empty => exact ⟨id, fun _ => by simp [reach, Takes]⟩
  | chars set =>
    have hmem : ∀ {s : Places} {j}, j ∈ reach text (.chars set) s ↔
        ∃ i ∈ s, Takes text (.chars set) i j := by
      intro s j
      simp only [reach, List.mem_filterMap, Takes, Option.any_eq_true,
        Option.ite_none_right_eq_some, Option.some.injEq, eq_comm (a := j)]
    refine ⟨fun hs => hvalid hs ?_ fun j => hmem, fun _ => hmem⟩
    refine hs.ascending.filterMap _ fun i i' hlt j hj j' hj' => ?_
    simp only [Option.ite_none_right_eq_some, Option.some.injEq] at hj hj'
    omega
  | look a =>
    have hmem : ∀ {s : Places} {j}, j ∈ reach text (.look a) s ↔
        ∃ i ∈ s, Takes text (.look a) i j := by
      intro s j
      simp [reach, Takes]
    exact ⟨fun hs => hvalid hs (hs.ascending.filter _) fun j => hmem, fun _ => hmem⟩
  | seq p q ihp ihq =>
    refine ⟨fun hs => ihq.valid (ihp.valid hs), fun {s j} hs => ?_⟩
    rw [reach, ihq.mem (ihp.valid hs)]
    simp only [ihp.mem hs, Takes]
    constructor
    · rintro ⟨k, ⟨i, hi, hik⟩, hkj⟩
      exact ⟨i, hi, k, hik, hkj⟩
    · rintro ⟨i, hi, k, hik, hkj⟩
      exact ⟨k, ⟨i, hi, hik⟩, hkj⟩
  | alt p q ihp ihq =>
    refine ⟨fun hs => (ihp.valid hs).union (ihq.valid hs), fun {s j} hs => ?_⟩
    rw [reach, mem_union, ihp.mem hs, ihq.mem hs, ← exists_or]
    simp only [Takes, and_or_left]
  | repeated p least most greedy ih =>
    have hstart : ∀ {s}, Valid text.size s →
        Valid text.size (after (reach text p) (min least (text.size + 1)) s) :=
      fun hs => (ih.after _).valid hs
    refine ⟨fun hs => Valid.within ih (hstart hs) (hstart hs), fun {s j} hs => ?_⟩
    rw [reach, mem_within ih (hstart hs) (hstart hs) (fun _ => id) fun i hi hnot => absurd hi hnot]
    simp only [(ih.after _).mem hs]
    constructor
    · rintro ⟨l, ⟨i, hi, hfirst⟩, k, hk, hmore⟩
      exact ⟨i, hi, (rounds_cut (hs.le_last i hi)).1 ⟨k, hk, hfirst.append hmore⟩⟩
    · rintro ⟨i, hi, htakes⟩
      obtain ⟨k, hk, hrounds⟩ := (rounds_cut (hs.le_last i hi)).2 htakes
      obtain ⟨l, hfirst, hmore⟩ := hrounds.split
      exact ⟨l, ⟨i, hi, hfirst⟩, k, hk, hmore⟩
  | group index p ih => exact ih

/-- **There is a match exactly if the pattern takes some part of the text.** -/
theorem isMatch_iff {p : Pattern} {subject : String} :
    p.isMatch subject = true ↔
      ∃ i ≤ subject.length, ∃ j, p.Takes subject.toList.toArray i j := by
  have hall : Valid subject.toList.toArray.size (List.range (subject.toList.toArray.size + 1)) := by
    refine ⟨List.pairwise_lt_range, fun i hi => ?_⟩
    rw [List.mem_range] at hi
    omega
  have hmem := fun j => (follows_reach subject.toList.toArray p).mem (j := j) hall
  unfold isMatch
  simp only [Bool.not_eq_true', List.isEmpty_eq_false_iff_exists_mem, hmem, List.mem_range]
  constructor
  · rintro ⟨j, i, hi, htakes⟩
    exact ⟨i, by simpa [Nat.lt_succ_iff, String.length_toList] using hi, j, htakes⟩
  · rintro ⟨i, hi, j, htakes⟩
    exact ⟨j, i, by simpa [Nat.lt_succ_iff, String.length_toList] using hi, htakes⟩

/-- A pattern in a group between the ends of a text. -/
def whole (p : Pattern) : Pattern :=
  .seq (.look .textStart) (.seq (.group none p) (.look .textEnd))

/-- **Between the ends of a text, a pattern matches exactly if it takes the text as a whole.** -/
theorem isMatch_whole_iff {p : Pattern} {subject : String} :
    p.whole.isMatch subject = true ↔ p.TakesWhole subject := by
  rw [isMatch_iff]
  simp only [whole, Takes, Anchor.holds, beq_iff_eq, TakesWhole]
  constructor
  · rintro ⟨i, -, j, _, ⟨rfl, rfl⟩, k, htakes, hk, rfl⟩
    simpa [hk, String.length_toList] using htakes
  · intro htakes
    exact ⟨0, Nat.zero_le _, _, 0, ⟨rfl, rfl⟩, _, htakes, by simp [String.length_toList], rfl⟩

end RestSuite.Pattern
