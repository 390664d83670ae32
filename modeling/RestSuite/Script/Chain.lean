import RestSuite.Script.Basic

/-!
# Chains of templates

A script inherits from the template it names, or from the implicit template if it names none. The
chain is climbed from the script up; a name that comes a second time is a cycle. Every step takes a
registered name that was not met before, so the climb ends.
-/

namespace RestSuite

/-- The templates defined so far, by name. -/
abbrev Templates := OrderedMap Script

namespace Templates

/-- Defines a template under its name, in place of an earlier one. -/
def register (t : Templates) (script : Script) : Templates :=
  OrderedMap.put t script.name script

/-- The names of the templates, sorted. -/
def names (t : Templates) : List String :=
  (OrderedMap.keys t).mergeSort fun a b => decide (a ≤ b)

/-- The name of the template that a script inherits from. -/
def parentName (t : Templates) (b : Bindings) (s : Script) :
    Except ResolveError (Option String) :=
  match s.namedTemplate b with
  | .error e => .error (.binding e)
  | .ok (some name) => .ok (some name)
  | .ok none =>
    if !s.isImplicitTemplate && OrderedMap.contains t Script.implicitTemplate then
      .ok (some Script.implicitTemplate)
    else .ok none

/-- The registered names that have not been visited. -/
def unvisited (t : Templates) (visited : List String) : List String :=
  (OrderedMap.keys t).filter fun name => !visited.contains name

/-- A name that is visited is taken out of them. -/
theorem unvisited_cons (t : Templates) (name : String) (visited : List String) :
    t.unvisited (name :: visited) = (t.unvisited visited).filter fun other => other != name := by
  unfold unvisited
  rw [List.filter_filter]
  refine List.filter_congr fun other _ => ?_
  rw [List.contains_cons, Bool.not_or]
  rfl

/-- So there are fewer of them, if it was among them. -/
theorem length_unvisited_lt {t : Templates} {visited : List String} {name : String}
    (registered : name ∈ OrderedMap.keys t) (new : ¬ name ∈ visited) :
    (t.unvisited (name :: visited)).length < (t.unvisited visited).length := by
  have unseen : name ∈ t.unvisited visited := by
    refine List.mem_filter.2 ⟨registered, ?_⟩
    rw [List.contains_eq_mem, decide_eq_false new]
    rfl
  rw [unvisited_cons]
  refine List.length_filter_lt_length_iff_exists.2 ⟨name, unseen, ?_⟩
  rw [bne_self_eq_false]
  exact Bool.false_ne_true

theorem mem_keys_of_get? {t : Templates} {name : String} {s : Script}
    (h : OrderedMap.get? t name = some s) : name ∈ OrderedMap.keys t := by
  by_cases hm : name ∈ OrderedMap.keys t
  · exact hm
  · rw [OrderedMap.get?_eq_none_iff.2 hm] at h
    cases h

/-- The templates above a script, the nearest first. `visited` holds the names met so far, the last
one first. -/
def ancestors (t : Templates) (b : Bindings) (visited : List String) (s : Script) :
    Except ResolveError (List Script) :=
  match t.parentName b s with
  | .error e => .error e
  | .ok none => .ok []
  | .ok (some name) =>
    if seen : name ∈ visited then .error (.configuration (.cyclicTemplate (name :: visited)))
    else
      match found : OrderedMap.get? t name with
      | none => .error (.configuration (.noSuchTemplate name))
      | some template =>
        have := length_unvisited_lt (mem_keys_of_get? found) seen
        match t.ancestors b (name :: visited) template with
        | .error e => .error e
        | .ok above => .ok (template :: above)
  termination_by (t.unvisited visited).length

/-- The scripts from the root of the chain down to the script itself. -/
def chain (t : Templates) (b : Bindings) (s : Script) : Except ResolveError (List Script) := do
  let above ← t.ancestors b [s.name] s
  .ok (above.reverse ++ [s])

end Templates

end RestSuite
