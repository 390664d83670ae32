import Mathlib.Data.List.Induction
import RestSuite.Http.Message

/-!
# One header per name

A request keeps every header that was added to it, and of a name that was added more than once the last
value counts. What is sent has one header per name. It is made by going through the list from the front
and changing values in place, while a single name is looked up from the end of the list; the two have to
come to the same.

* **`Request.firstNames`** — the names of a list, each as it stands at its first occurrence.
* **`Request.names_collapse`**, **`Request.firstValue?_collapse`** — what one step does to the names and
  to the values.
* **`Request.Collapses`** — a list that has the names of another one once each, with the values that
  count.
* **`Request.effectiveHeaders_collapsed`** — the headers that are sent are such a list, and to collapse
  them once more changes nothing.
-/

namespace RestSuite

/-! ## Names without regard to case -/

namespace Text

theorem sameIgnoringCase_comm (a b : String) : sameIgnoringCase a b = sameIgnoringCase b a := by
  rw [Bool.eq_iff_iff, sameIgnoringCase_iff, sameIgnoringCase_iff]
  exact eq_comm

/-- Names that are the same are the same as any third. -/
theorem sameIgnoringCase_congr {a b : String} (h : sameIgnoringCase a b = true) (c : String) :
    sameIgnoringCase a c = sameIgnoringCase b c := by
  rw [Bool.eq_iff_iff, sameIgnoringCase_iff, sameIgnoringCase_iff, sameIgnoringCase_iff.1 h]

end Text

namespace Request

variable {full kept rest : List Header} {names : List String} {name value : String}

/-! ## The first of each name -/

/-- The names of a list, each in the spelling and at the place of its first occurrence. -/
def firstNames : List String → List String
  | [] => []
  | name :: rest =>
    name :: (firstNames rest).filter fun other => !Text.sameIgnoringCase name other

/-- A name at the end of a list is a first one if no other is the same. Induction on those in front. -/
theorem firstNames_append_singleton (names : List String) (name : String) :
    firstNames (names ++ [name]) =
      if names.any (Text.sameIgnoringCase · name) then firstNames names
      else firstNames names ++ [name] := by
  induction names with
  | nil => rfl
  | cons first rest ih =>
    rw [List.cons_append, firstNames, ih, firstNames, List.any_cons]
    by_cases hrest : rest.any (Text.sameIgnoringCase · name) = true
    · rw [if_pos hrest, hrest, Bool.or_true, if_pos rfl]
    · rw [if_neg hrest, List.filter_append, Bool.eq_false_iff.2 hrest, Bool.or_false]
      by_cases hfirst : Text.sameIgnoringCase first name = true
      · simp [hfirst]
      · simp [hfirst]

/-- A name stands among the first ones if it stands in the list. -/
theorem any_firstNames (names : List String) (name : String) :
    (firstNames names).any (Text.sameIgnoringCase · name) =
      names.any (Text.sameIgnoringCase · name) := by
  induction names with
  | nil => rfl
  | cons first rest ih =>
    rw [firstNames, List.any_cons, List.any_cons, ← ih, List.any_filter]
    by_cases hfirst : Text.sameIgnoringCase first name = true
    · rw [hfirst, Bool.true_or, Bool.true_or]
    · -- what is left out is the same as the first, so it is not the name
      refine congrArg _ (congrArg (firstNames rest).any (funext fun other => ?_))
      cases hother : Text.sameIgnoringCase first other with
      | false => rfl
      | true =>
        rw [← Text.sameIgnoringCase_congr hother name, Bool.eq_false_iff.2 hfirst]
        rfl

theorem pairwise_firstNames (names : List String) :
    (firstNames names).Pairwise fun a b => Text.sameIgnoringCase a b = false := by
  induction names with
  | nil => exact .nil
  | cons first rest ih =>
    refine .cons (fun other hother => ?_) (ih.filter _)
    simpa using (List.mem_filter.1 hother).2

/-! ## One step -/

/-- The value of the first header of a name. -/
def firstValue? (headers : List Header) (name : String) : Option String :=
  (headers.find? fun h => Text.sameIgnoringCase h.1 name).map Prod.snd

/-- A request looks a name up from the end of its headers. -/
theorem header?_eq_firstValue? (r : Request) (name : String) :
    r.header? name = firstValue? r.headers.reverse name := rfl

theorem firstValue?_cons (h : Header) (rest : List Header) (name : String) :
    firstValue? (h :: rest) name =
      if Text.sameIgnoringCase h.1 name then some h.2 else firstValue? rest name := by
  unfold firstValue?
  rw [List.find?_cons]
  cases Text.sameIgnoringCase h.1 name <;> rfl

/-- A step leaves the names as they are, but for a new one. -/
theorem names_collapse (name value : String) (kept : List Header) :
    (collapse name value kept).map Prod.fst =
      if (kept.map Prod.fst).any (Text.sameIgnoringCase · name) then kept.map Prod.fst
      else kept.map Prod.fst ++ [name] := by
  induction kept with
  | nil => rfl
  | cons h rest ih =>
    rw [collapse, List.map_cons, List.any_cons]
    by_cases hname : Text.sameIgnoringCase h.1 name = true
    · rw [if_pos hname, hname, Bool.true_or, if_pos rfl, List.map_cons]
    · rw [if_neg hname, Bool.eq_false_iff.2 hname, Bool.false_or, List.map_cons, ih,
        apply_ite (h.1 :: ·)]
      rfl

/-- A step gives its name the new value, and no other name. -/
theorem firstValue?_collapse (name value : String) (kept : List Header) (other : String) :
    firstValue? (collapse name value kept) other =
      if Text.sameIgnoringCase name other then some value else firstValue? kept other := by
  induction kept with
  | nil => exact firstValue?_cons (name, value) [] other
  | cons h rest ih =>
    rw [collapse, firstValue?_cons]
    by_cases hname : Text.sameIgnoringCase h.1 name = true
    · rw [if_pos hname, firstValue?_cons, Text.sameIgnoringCase_congr hname]
      split <;> rfl
    · rw [if_neg hname, firstValue?_cons, ih]
      by_cases hother : Text.sameIgnoringCase h.1 other = true
      · -- the name in front is asked for, so the name of the step is not
        have hne : ¬ Text.sameIgnoringCase name other = true := fun hsame => hname <| by
          rw [Text.sameIgnoringCase_comm] at hsame ⊢
          rwa [Text.sameIgnoringCase_comm, Text.sameIgnoringCase_congr hother]
        rw [if_pos hother, if_neg hne, if_pos hother]
      · rw [if_neg hother, if_neg hother]

/-- A step with a new name adds it at the end. -/
theorem collapse_of_new (h : ∀ other ∈ kept, Text.sameIgnoringCase other.1 name = false) :
    collapse name value kept = kept ++ [(name, value)] := by
  induction kept with
  | nil => rfl
  | cons first rest ih =>
    obtain ⟨hfirst, hrest⟩ := List.forall_mem_cons.1 h
    rw [collapse, hfirst, if_neg Bool.false_ne_true, ih hrest, List.cons_append]

/-! ## All steps -/

/-- One list has the names of another in their order, each once and as it was spelled first, and looked
up from its front every name has the value that it has in the other when looked up from the end. -/
structure Collapses (full kept : List Header) : Prop where
  names : kept.map Prod.fst = firstNames (full.map Prod.fst)
  values : ∀ name, firstValue? kept name = firstValue? full.reverse name

theorem Collapses.step (h : Collapses full kept) (header : Header) :
    Collapses (full ++ [header]) (collapse header.1 header.2 kept) where
  names := by
    rw [List.map_append, List.map_singleton, firstNames_append_singleton, names_collapse, h.names,
      any_firstNames]
  values name := by
    rw [firstValue?_collapse, List.reverse_append, List.reverse_singleton, List.singleton_append,
      firstValue?_cons, h.values]

/-- **The headers that are sent collapse those that were added.** Induction on the list from its end:
the headers that were gone through are the ones in front. -/
theorem effectiveHeaders_collapses (r : Request) : Collapses r.headers r.effectiveHeaders := by
  unfold effectiveHeaders
  induction r.headers using List.reverseRecOn with
  | nil => exact ⟨rfl, fun _ => rfl⟩
  | append_singleton full header ih =>
    rw [List.foldl_append]
    exact ih.step header

theorem Collapses.pairwise (h : Collapses full kept) :
    kept.Pairwise fun a b => Text.sameIgnoringCase a.1 b.1 = false := by
  have hnames := pairwise_firstNames (full.map Prod.fst)
  rw [← h.names] at hnames
  exact List.pairwise_map.1 hnames

theorem Collapses.exists_iff (h : Collapses full kept) (name : String) :
    (∃ header ∈ kept, Text.sameIgnoringCase header.1 name = true) ↔
      ∃ header ∈ full, Text.sameIgnoringCase header.1 name = true := by
  have hany := any_firstNames (full.map Prod.fst) name
  rw [← h.names, List.any_map, List.any_map, Bool.eq_iff_iff, List.any_eq_true, List.any_eq_true]
    at hany
  exact hany

/-- Headers with different names are collapsed to themselves, whatever was kept before that. Induction
on those that are left. -/
theorem foldl_collapse_of_pairwise
    (h : (kept ++ rest).Pairwise fun a b => Text.sameIgnoringCase a.1 b.1 = false) :
    rest.foldl (fun kept h => collapse h.1 h.2 kept) kept = kept ++ rest := by
  induction rest generalizing kept with
  | nil => exact (List.append_nil kept).symm
  | cons first rest ih =>
    have hnew : ∀ other ∈ kept, Text.sameIgnoringCase other.1 first.1 = false :=
      fun other hother => (List.pairwise_append.1 h).2.2 other hother first List.mem_cons_self
    rw [List.foldl_cons, collapse_of_new hnew, ih (by simpa using h), List.append_assoc,
      List.singleton_append]

/-- **What is sent is the collapsed form of the headers that were added.** No two of its names are the
same; it has every name that was added and no other, in the order and spelling of the first occurrences;
looked up in it, a name has the value that counts for the request; and to collapse it changes nothing.
Names are compared without regard to case. -/
theorem effectiveHeaders_collapsed (r : Request) :
    (r.effectiveHeaders.Pairwise fun a b => Text.sameIgnoringCase a.1 b.1 = false)
    ∧ (∀ name, (∃ header ∈ r.effectiveHeaders, Text.sameIgnoringCase header.1 name = true) ↔
        ∃ header ∈ r.headers, Text.sameIgnoringCase header.1 name = true)
    ∧ r.effectiveHeaders.map Prod.fst = firstNames (r.headers.map Prod.fst)
    ∧ (∀ name, firstValue? r.effectiveHeaders name = r.header? name)
    ∧ { r with headers := r.effectiveHeaders }.effectiveHeaders = r.effectiveHeaders := by
  have hcollapses := r.effectiveHeaders_collapses
  have hdistinct : ([] ++ r.effectiveHeaders).Pairwise
      fun a b : Header => Text.sameIgnoringCase a.1 b.1 = false := hcollapses.pairwise
  refine ⟨hcollapses.pairwise, hcollapses.exists_iff, hcollapses.names, fun name => ?_,
    foldl_collapse_of_pairwise hdistinct⟩
  rw [header?_eq_firstValue?]
  exact hcollapses.values name

/-- A name that comes again in other letters keeps its place and its spelling. -/
example :
    (Request.mk .get "/" [("Accept", "text/plain"), ("X-Trace", "1"), ("accept", "text/html")]
      none).effectiveHeaders = [("Accept", "text/html"), ("X-Trace", "1")] := by
  decide +kernel

end Request

end RestSuite
