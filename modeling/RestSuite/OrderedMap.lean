/-!
# Maps in order of insertion

A map from names to values that keeps the order in which names first came in. Giving a present name
a new value leaves it at its place; a name that was erased and comes back goes to the end.
-/

namespace RestSuite

/-- A map from names to values, in order of insertion. -/
abbrev OrderedMap (α : Type) := List (String × α)

namespace OrderedMap

variable {α : Type}

/-- The value of a name. -/
def get? (m : OrderedMap α) (key : String) : Option α :=
  match m with
  | [] => none
  | (k, v) :: rest => if k = key then some v else get? rest key

/-- The names, in order. -/
def keys (m : OrderedMap α) : List String :=
  m.map Prod.fst

/-- The name has a value. -/
def contains (m : OrderedMap α) (key : String) : Bool :=
  (m.get? key).isSome

/-- Gives a name a value: in its place if the name is present, else at the end. -/
def put (m : OrderedMap α) (key : String) (value : α) : OrderedMap α :=
  match m with
  | [] => [(key, value)]
  | (k, v) :: rest => if k = key then (key, value) :: rest else (k, v) :: put rest key value

/-- Takes a name out and keeps the order of the rest. -/
def erase (m : OrderedMap α) (key : String) : OrderedMap α :=
  match m with
  | [] => []
  | (k, v) :: rest => if k = key then rest else (k, v) :: erase rest key

/-- No name stands twice. -/
def Distinct (m : OrderedMap α) : Prop :=
  m.keys.Nodup

instance (m : OrderedMap α) : Decidable m.Distinct :=
  inferInstanceAs (Decidable (List.Nodup _))

/-! ## Look-up after an operation -/

theorem get?_cons (k : String) (v : α) (m : OrderedMap α) (key : String) :
    get? ((k, v) :: m) key = if k = key then some v else get? m key := rfl

theorem get?_put (m : OrderedMap α) (key : String) (value : α) (other : String) :
    get? (m.put key value) other = if key = other then some value else get? m other := by
  induction m with
  | nil => simp [put, get?_cons]
  | cons entry rest ih =>
    obtain ⟨k, v⟩ := entry
    by_cases hk : k = key
    · subst hk
      by_cases ho : k = other <;> simp [put, get?_cons, ho]
    · by_cases ho : k = other
      · subst ho
        simp [put, get?_cons, hk, Ne.symm hk]
      · simp [put, get?_cons, hk, ho, ih]

theorem get?_eq_none_iff {m : OrderedMap α} {key : String} :
    get? m key = none ↔ key ∉ m.keys := by
  induction m with
  | nil => exact iff_of_true rfl List.not_mem_nil
  | cons entry rest ih =>
    obtain ⟨k, v⟩ := entry
    have hkeys : keys ((k, v) :: rest) = k :: keys rest := rfl
    rw [get?_cons, hkeys, List.mem_cons, not_or]
    by_cases hk : k = key
    · rw [if_pos hk]
      exact iff_of_false nofun fun hkey => hkey.1 hk.symm
    · rw [if_neg hk, ih]
      exact (and_iff_right (Ne.symm hk)).symm

theorem mem_keys_iff {m : OrderedMap α} {key : String} :
    key ∈ m.keys ↔ ∃ value, get? m key = some value := by
  cases hget : get? m key with
  | none => exact iff_of_false (get?_eq_none_iff.1 hget) nofun
  | some value =>
    refine iff_of_true (Classical.byContradiction fun hkey => ?_) ⟨value, rfl⟩
    cases hget.symm.trans (get?_eq_none_iff.2 hkey)

theorem contains_iff {m : OrderedMap α} {key : String} : m.contains key = true ↔ key ∈ m.keys :=
  Option.isSome_iff_exists.trans mem_keys_iff.symm

/-- A value that a map gives for a name stands in it. -/
theorem mem_of_get? {m : OrderedMap α} {key : String} {value : α}
    (h : get? m key = some value) : (key, value) ∈ m := by
  induction m with
  | nil => cases h
  | cons entry rest ih =>
    obtain ⟨k, v⟩ := entry
    rw [get?_cons] at h
    split at h
    · next hk => cases h; rw [hk]; exact List.mem_cons_self
    · exact List.mem_cons_of_mem _ (ih h)

/-- A map gives a value for a name exactly if the first entry of the name has it. -/
theorem get?_eq_some_iff {m : OrderedMap α} {key : String} {value : α} :
    get? m key = some value ↔
      ∃ before after, m = before ++ (key, value) :: after ∧ key ∉ keys before := by
  induction m with
  | nil =>
    refine iff_of_false nofun ?_
    rintro ⟨before, after, heq, -⟩
    cases (List.append_eq_nil_iff.1 heq.symm).2
  | cons entry rest ih =>
    obtain ⟨k, v⟩ := entry
    rw [get?_cons]
    constructor
    · intro h
      split at h
      · next hk => cases h; exact ⟨[], rest, by rw [hk]; rfl, by simp [keys]⟩
      · next hk =>
        obtain ⟨before, after, rfl, hbefore⟩ := ih.1 h
        exact ⟨(k, v) :: before, after, rfl, by simpa [keys, Ne.symm hk] using hbefore⟩
    · rintro ⟨before, after, heq, hbefore⟩
      cases before with
      | nil => cases heq; exact if_pos rfl
      | cons first before =>
        cases heq
        simp only [keys, List.map_cons, List.mem_cons, not_or] at hbefore
        rw [if_neg (Ne.symm hbefore.1)]
        exact ih.2 ⟨before, after, rfl, hbefore.2⟩

/-- Where no name stands twice, every entry is the one that is found. -/
theorem get?_of_mem {m : OrderedMap α} {key : String} {value : α} (hdistinct : m.Distinct)
    (h : (key, value) ∈ m) : get? m key = some value := by
  obtain ⟨before, after, rfl⟩ := List.append_of_mem h
  refine get?_eq_some_iff.2 ⟨before, after, rfl, fun hbefore => ?_⟩
  unfold Distinct keys at hdistinct
  rw [List.map_append, List.map_cons, List.nodup_append] at hdistinct
  exact hdistinct.2.2 key hbefore key List.mem_cons_self rfl

/-! ## Names after an operation -/

/-- A new name goes to the end. -/
theorem put_of_not_mem {m : OrderedMap α} {key : String} (h : key ∉ m.keys) (value : α) :
    m.put key value = m ++ [(key, value)] := by
  induction m with
  | nil => rfl
  | cons entry rest ih =>
    obtain ⟨hne, hrest⟩ := List.ne_and_not_mem_of_not_mem_cons h
    rw [put, if_neg (Ne.symm hne), ih hrest, List.cons_append]

theorem keys_put (m : OrderedMap α) (key : String) (value : α) :
    (m.put key value).keys = if key ∈ m.keys then m.keys else m.keys ++ [key] := by
  induction m with
  | nil => simp [put, keys]
  | cons entry rest ih =>
    obtain ⟨k, v⟩ := entry
    by_cases hk : k = key
    · simp [put, keys, hk]
    · have hne : ¬ key = k := fun e => hk e.symm
      by_cases hm : key ∈ keys rest
      · rw [if_pos hm] at ih
        simp only [keys] at ih hm
        simp [put, keys, hk, hne, hm, ih]
      · rw [if_neg hm] at ih
        simp only [keys] at ih hm
        simp [put, keys, hk, hne, hm, ih]

end OrderedMap

end RestSuite
