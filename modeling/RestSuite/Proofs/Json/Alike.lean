import Mathlib.Data.List.Perm.Subperm
import RestSuite.Proofs.Json.RoundTrip

/-!
# When two values are equal

The comparison of values looks up every member of one object in the other and compares how many there
are. It is said here what this comes to: arrays are compared by their places and objects by their
names, and neither side counts for more than the other.

* **`Json.Alike`** — two values are equal, the order of members apart.
* **`Json.Alike.symm`** — the sides can be swapped.
* **`Json.same_iff_alike`** — the comparison finds out whether values without floats are equal.
-/

namespace RestSuite

namespace Json

variable {v w : Json}

/-- Two values are equal: arrays place by place, and objects name by name. -/
inductive Alike : Json → Json → Prop where
  | null : Alike .null .null
  | bool (value : Bool) : Alike (.bool value) (.bool value)
  | number (value : Number) : Alike (.number value) (.number value)
  | string (value : String) : Alike (.string value) (.string value)
  | array {as bs : List Json} (hlength : as.length = bs.length)
      (hitems : ∀ (i : Nat) a b, as[i]? = some a → bs[i]? = some b → Alike a b) :
      Alike (.array as) (.array bs)
  | object {as bs : List (String × Json)}
      (hnames : ∀ name, name ∈ OrderedMap.keys as ↔ name ∈ OrderedMap.keys bs)
      (hvalues : ∀ name a b, OrderedMap.get? as name = some a → OrderedMap.get? bs name = some b →
        Alike a b) :
      Alike (.object as) (.object bs)

theorem Alike.symm (h : v.Alike w) : w.Alike v := by
  induction h with
  | null => exact .null
  | bool value => exact .bool value
  | number value => exact .number value
  | string value => exact .string value
  | array hlength _ ih => exact .array hlength.symm fun i b a hb ha => ih i a b ha hb
  | object hnames _ ih =>
    exact .object (fun name => (hnames name).symm) fun name b a hb ha => ih name a b ha hb

theorem alike_comm : v.Alike w ↔ w.Alike v :=
  ⟨Alike.symm, Alike.symm⟩

/-! ## Objects -/

variable {as bs : List (String × Json)}

theorem DistinctMembers.of_get? {members : List (String × Json)} {name : String} {value : Json}
    (h : DistinctMembers members) (hget : OrderedMap.get? members name = some value) :
    value.Distinct := by
  induction members with
  | nil => cases hget
  | cons entry rest ih =>
    obtain ⟨k, first⟩ := entry
    rw [OrderedMap.get?_cons] at hget
    split at hget
    · cases hget
      exact h.1
    · exact ih h.2 hget

/-- Objects with as many members each have the same names as soon as one has those of the other. -/
theorem mem_keys_iff_of_length (has : OrderedMap.Distinct as)
    (hlength : as.length = bs.length) (hsub : OrderedMap.keys as ⊆ OrderedMap.keys bs)
    (name : String) : name ∈ OrderedMap.keys as ↔ name ∈ OrderedMap.keys bs := by
  have hle : (OrderedMap.keys bs).length ≤ (OrderedMap.keys as).length := by
    simp [OrderedMap.keys, hlength]
  exact ((List.subperm_of_subset has hsub).perm_of_length_le hle).mem_iff

/-- **Looking up the members of one object in another that has as many** shows whether the two are
equal. -/
theorem alike_object_iff (has : OrderedMap.Distinct as) (hbs : OrderedMap.Distinct bs) :
    (as.length = bs.length ∧
        ∀ entry ∈ as, ∃ b, OrderedMap.get? bs entry.1 = some b ∧ entry.2.Alike b) ↔
      Alike (.object as) (.object bs) := by
  constructor
  · rintro ⟨hlength, hfound⟩
    refine .object (mem_keys_iff_of_length has hlength ?_) fun name a b ha hb => ?_
    · intro name hname
      obtain ⟨a, ha⟩ := OrderedMap.mem_keys_iff.1 hname
      obtain ⟨b, hb, -⟩ := hfound (name, a) (OrderedMap.mem_of_get? ha)
      exact OrderedMap.mem_keys_iff.2 ⟨b, hb⟩
    · obtain ⟨b', hb', halike⟩ := hfound (name, a) (OrderedMap.mem_of_get? ha)
      cases hb.symm.trans hb'
      exact halike
  · intro h
    cases h with
    | object hnames hvalues =>
      refine ⟨?_, ?_⟩
      · have hperm := (List.perm_ext_iff_of_nodup has hbs).2 hnames
        simpa [OrderedMap.keys] using hperm.length_eq
      · rintro ⟨name, a⟩ hmem
        have ha := OrderedMap.get?_of_mem has hmem
        have hname := (hnames name).1 (OrderedMap.mem_keys_iff.2 ⟨a, ha⟩)
        obtain ⟨b, hb⟩ := OrderedMap.mem_keys_iff.1 hname
        exact ⟨b, hb, hvalues name a b ha hb⟩

/-! ## The comparison -/

theorem same_number_iff {a b : Number} (h : a.IsInteger) : a.same b = true ↔ a = b := by
  cases a with
  | real => cases h
  | integer a _ =>
    cases b with
    | integer b _ => simp [Number.same]
    | real b => simp [Number.same]

mutual

/-- **The comparison finds out whether two values are equal**, if the first has no float and no object
has a name twice. Induction on the first value. -/
theorem same_iff_alike : (v w : Json) → v.Integral → v.Distinct → w.Distinct →
    (v.same w = true ↔ v.Alike w)
  | .null, w, _, _, _ => by
    cases w with
    | null => exact iff_of_true rfl .null
    | _ => exact iff_of_false nofun nofun
  | .bool a, w, _, _, _ => by
    cases w with
    | bool b =>
      rw [same, beq_iff_eq]
      exact ⟨fun h => h ▸ .bool a, fun h => by cases h; rfl⟩
    | _ => exact iff_of_false nofun nofun
  | .number a, w, h, _, _ => by
    cases w with
    | number b =>
      rw [same, same_number_iff h]
      exact ⟨fun h => h ▸ .number a, fun h => by cases h; rfl⟩
    | _ => exact iff_of_false nofun nofun
  | .string a, w, _, _, _ => by
    cases w with
    | string b =>
      rw [same, beq_iff_eq]
      exact ⟨fun h => h ▸ .string a, fun h => by cases h; rfl⟩
    | _ => exact iff_of_false nofun nofun
  | .array as, w, h, hv, hw => by
    cases w with
    | array bs =>
      rw [same, sameItems_iff as bs h hv hw]
      constructor
      · rintro ⟨hlength, hitems⟩
        exact .array hlength hitems
      · intro h
        cases h with
        | array hlength hitems => exact ⟨hlength, hitems⟩
    | _ => exact iff_of_false nofun nofun
  | .object as, w, h, hv, hw => by
    cases w with
    | object bs =>
      rw [same, Bool.and_eq_true, beq_iff_eq, sameMembers_iff as bs h hv.2 hw.2,
        alike_object_iff hv.1 hw.1]
    | _ => exact iff_of_false nofun nofun

/-- Items are compared place by place. -/
theorem sameItems_iff : (as bs : List Json) → IntegralItems as → DistinctItems as →
    DistinctItems bs → (sameItems as bs = true ↔
      as.length = bs.length ∧
        ∀ (i : Nat) (a b : Json), as[i]? = some a → bs[i]? = some b → a.Alike b)
  | [], bs, _, _, _ => by
    cases bs with
    | nil => exact iff_of_true rfl ⟨rfl, nofun⟩
    | cons b bs => exact iff_of_false nofun nofun
  | a :: as, bs, h, has, hbs => by
    cases bs with
    | nil => exact iff_of_false nofun nofun
    | cons b bs =>
      rw [sameItems, Bool.and_eq_true, same_iff_alike a b h.1 has.1 hbs.1,
        sameItems_iff as bs h.2 has.2 hbs.2]
      constructor
      · rintro ⟨hfirst, hlength, hrest⟩
        refine ⟨congrArg (· + 1) hlength, fun i a' b' ha hb => ?_⟩
        cases i with
        | zero =>
          cases ha
          cases hb
          exact hfirst
        | succ i => exact hrest i a' b' ha hb
      · rintro ⟨hlength, hitems⟩
        exact ⟨hitems 0 a b rfl rfl, Nat.succ.inj hlength,
          fun i a' b' ha hb => hitems (i + 1) a' b' ha hb⟩

/-- Members are looked up by their names. -/
theorem sameMembers_iff : (as bs : List (String × Json)) → IntegralMembers as → DistinctMembers as →
    DistinctMembers bs → (sameMembers as bs = true ↔
      ∀ entry ∈ as, ∃ b, OrderedMap.get? bs entry.1 = some b ∧ entry.2.Alike b)
  | [], bs, _, _, _ => iff_of_true rfl (List.forall_mem_nil _)
  | (name, a) :: as, bs, h, has, hbs => by
    rw [sameMembers, Bool.and_eq_true, sameMembers_iff as bs h.2 has.2 hbs, List.forall_mem_cons]
    refine and_congr_left fun _ => ?_
    cases hget : OrderedMap.get? bs name with
    | none => exact iff_of_false nofun nofun
    | some b =>
      dsimp only
      rw [same_iff_alike a b h.1 has.1 (hbs.of_get? hget)]
      exact ⟨fun h => ⟨b, rfl, h⟩, fun ⟨_, hb, h⟩ => by cases hb; exact h⟩

end

end Json

end RestSuite
