import Mathlib.Data.List.Nodup
import Mathlib.Logic.Function.Iterate
import RestSuite.Proofs.Expansion
import RestSuite.Script.Chain

/-!
# The climb from a script to the root of its chain

The templates above a script are found by names, which depend on the bindings and can lead anywhere:
to a template that was met before, to none at all, or on and on. This module says what the climb finds
in all cases, and that it ends.

* **`Templates.Inherits`**, **`Templates.IsTop`**, **`Templates.NamesUnbound`** — what can be said of
  the parent of a script.
* **`Templates.Lineage`** — scripts from an ancestor down to the script, each the parent of the next,
  with no name twice.
* **`Templates.LeadsTo`** — what a climb can lead to: the lineage up to a script without a parent, a
  name that was met, a name without a template, or a template field that cannot be filled in.
* **`Templates.step`** — one step of a climb. It keeps the climb on a lineage (`step_sound`), every
  lineage is reached by some number of steps (`Lineage.reached`), and each step is one fewer of those
  that remain (`remaining_step`).
* **`Templates.chain_correct`** — the chain is what the climb leads to.
-/

namespace RestSuite.Templates

variable {t : Templates} {b : Bindings} {s top template : Script} {below path : List Script}
  {name : String} {result result' : Except ResolveError (List Script)}

/-! ## Registries -/

/-- The registry in which scripts were registered one after the other. -/
def ofScripts (scripts : List Script) : Templates :=
  scripts.foldl register []

/-- Every template stands under its own name. -/
def Keyed (t : Templates) : Prop :=
  ∀ name template, OrderedMap.get? t name = some template → template.name = name

theorem Keyed.register (h : t.Keyed) (script : Script) : (t.register script).Keyed := by
  intro name template hget
  unfold Templates.register at hget
  rw [OrderedMap.get?_put] at hget
  split at hget
  · next heq => cases hget; exact heq
  · exact h name template hget

/-- **Every registry is keyed by the names of its templates.** -/
theorem keyed_ofScripts (scripts : List Script) : (ofScripts scripts).Keyed := by
  have hfold : ∀ t : Templates, t.Keyed → (scripts.foldl Templates.register t).Keyed := by
    induction scripts with
    | nil => exact fun _ h => h
    | cons script rest ih => exact fun t h => ih (t.register script) (h.register script)
  exact hfold [] nofun

/-! ## Parents -/

/-- The script inherits from the template of a name: the one it names itself, filled in, or else the
implicit template, if there is one and the script is not it. -/
inductive Inherits (t : Templates) (b : Bindings) (s : Script) : String → Prop where
  | named {raw text : String} (htemplate : s.template = some raw)
      (hfilled : b.substitute raw = .ok text) : Inherits t b s (Script.templateName text)
  | implicit (htemplate : s.template = none) (hother : s.name ≠ Script.implicitTemplate)
      (hdefined : OrderedMap.contains t Script.implicitTemplate = true) :
      Inherits t b s Script.implicitTemplate

/-- The script inherits from no template. -/
structure IsTop (t : Templates) (s : Script) : Prop where
  template : s.template = none
  implicit : s.name = Script.implicitTemplate
    ∨ OrderedMap.contains t Script.implicitTemplate = false

/-- The script names its template by a text with variables of which one is not bound, the first. -/
def NamesUnbound (b : Bindings) (s : Script) (name : String) : Prop :=
  ∃ raw, s.template = some raw ∧ b.firstUnbound? raw = some name

theorem Inherits.parentName (h : t.Inherits b s name) : t.parentName b s = .ok (some name) := by
  unfold Templates.parentName Script.namedTemplate
  cases h with
  | named htemplate hfilled =>
    rw [htemplate]
    dsimp only
    rw [hfilled]
    rfl
  | implicit htemplate hother hdefined =>
    have hself : s.isImplicitTemplate = false := beq_eq_false_iff_ne.2 hother
    rw [htemplate, hself, hdefined]
    rfl

theorem IsTop.parentName (h : t.IsTop s) (b : Bindings) : t.parentName b s = .ok none := by
  unfold Templates.parentName Script.namedTemplate
  rw [h.template]
  dsimp only
  rcases h.implicit with hself | hnone
  · have himplicit : s.isImplicitTemplate = true := beq_iff_eq.2 hself
    rw [himplicit]
    rfl
  · rw [hnone, Bool.and_false]
    rfl

theorem NamesUnbound.parentName (h : NamesUnbound b s name) (t : Templates) :
    t.parentName b s = .error (.binding (.unbound name)) := by
  obtain ⟨raw, htemplate, hunbound⟩ := h
  have hfails := Bindings.substitute_eq_error_iff.2 ⟨name, hunbound, rfl⟩
  unfold Templates.parentName Script.namedTemplate
  rw [htemplate]
  dsimp only
  rw [hfails]
  rfl

/-- There is nothing else to be said of a parent. -/
theorem parent_cases (t : Templates) (b : Bindings) (s : Script) :
    (∃ name, t.Inherits b s name) ∨ t.IsTop s ∨ ∃ name, NamesUnbound b s name := by
  cases htemplate : s.template with
  | some raw =>
    cases hfilled : b.substitute raw with
    | ok text => exact .inl ⟨_, .named htemplate hfilled⟩
    | error e =>
      obtain ⟨name, hunbound, -⟩ := Bindings.substitute_eq_error_iff.1 hfilled
      exact .inr (.inr ⟨name, raw, htemplate, hunbound⟩)
  | none =>
    by_cases hself : s.name = Script.implicitTemplate
    · exact .inr (.inl ⟨htemplate, .inl hself⟩)
    · cases hdefined : OrderedMap.contains t Script.implicitTemplate with
      | true => exact .inl ⟨_, .implicit htemplate hself hdefined⟩
      | false => exact .inr (.inl ⟨htemplate, .inr hdefined⟩)

/-! ## Lineages -/

/-- A template is the parent of a script. -/
def IsParent (t : Templates) (b : Bindings) (parent child : Script) : Prop :=
  ∃ name, t.Inherits b child name ∧ OrderedMap.get? t name = some parent

/-- Scripts from an ancestor down to the script. -/
structure Lineage (t : Templates) (b : Bindings) (s : Script) (path : List Script) : Prop where
  ends : path.getLast? = some s
  linked : path.IsChain (t.IsParent b)
  distinct : (path.map Script.name).Nodup

theorem Lineage.single (t : Templates) (b : Bindings) (s : Script) : t.Lineage b s [s] :=
  ⟨rfl, .singleton s, List.nodup_singleton _⟩

/-- A further ancestor, whose name is new. -/
theorem Lineage.cons (h : t.Lineage b s (top :: below)) (hparent : t.IsParent b template top)
    (hnew : template.name ∉ (top :: below).map Script.name) :
    t.Lineage b s (template :: top :: below) :=
  ⟨h.ends, List.isChain_cons_cons.2 ⟨hparent, h.linked⟩, List.nodup_cons.2 ⟨hnew, h.distinct⟩⟩

/-- The scripts below an ancestor are a lineage too. -/
theorem Lineage.tail (h : t.Lineage b s (template :: top :: below)) :
    t.Lineage b s (top :: below) :=
  ⟨h.ends, (List.isChain_cons_cons.1 h.linked).2, (List.nodup_cons.1 h.distinct).2⟩

/-- What a climb can lead to. -/
inductive LeadsTo (t : Templates) (b : Bindings) (s : Script) :
    Except ResolveError (List Script) → Prop where
  /-- A script without a parent is on top. -/
  | complete {top : Script} {below : List Script}
      (hlineage : t.Lineage b s (top :: below)) (htop : t.IsTop top) :
      LeadsTo t b s (.ok (top :: below))
  /-- The script on top inherits from a name of the lineage. -/
  | cyclic {top : Script} {below : List Script} {name : String}
      (hlineage : t.Lineage b s (top :: below)) (hparent : t.Inherits b top name)
      (hmet : name ∈ (top :: below).map Script.name) :
      LeadsTo t b s (.error (.configuration
        (.cyclicTemplate (name :: (top :: below).map Script.name))))
  /-- The script on top inherits from a new name, under which no template stands. -/
  | dangling {top : Script} {below : List Script} {name : String}
      (hlineage : t.Lineage b s (top :: below)) (hparent : t.Inherits b top name)
      (hnew : name ∉ (top :: below).map Script.name) (hmissing : OrderedMap.get? t name = none) :
      LeadsTo t b s (.error (.configuration (.noSuchTemplate name)))
  /-- The script on top names its template by an unbound variable. -/
  | unbound {top : Script} {below : List Script} {name : String}
      (hlineage : t.Lineage b s (top :: below)) (hunbound : NamesUnbound b top name) :
      LeadsTo t b s (.error (.binding (.unbound name)))

/-! ## Steps -/

/-- A climb: it has come to a script, with those below it, or it is over. -/
inductive Climb where
  | underway (top : Script) (below : List Script)
  | ended (result : Except ResolveError (List Script))

/-- One step of a climb. -/
def step (t : Templates) (b : Bindings) : Climb → Climb
  | .ended result => .ended result
  | .underway top below =>
    match t.parentName b top with
    | .error e => .ended (.error e)
    | .ok none => .ended (.ok (top :: below))
    | .ok (some name) =>
      if name ∈ (top :: below).map Script.name then
        .ended (.error (.configuration (.cyclicTemplate (name :: (top :: below).map Script.name))))
      else
        match OrderedMap.get? t name with
        | none => .ended (.error (.configuration (.noSuchTemplate name)))
        | some template => .underway template (top :: below)

theorem step_top (h : t.IsTop top) (b : Bindings) (below : List Script) :
    t.step b (.underway top below) = .ended (.ok (top :: below)) := by
  rw [step, h.parentName]

theorem step_unbound (h : NamesUnbound b top name) (t : Templates) (below : List Script) :
    t.step b (.underway top below) = .ended (.error (.binding (.unbound name))) := by
  rw [step, h.parentName]

theorem step_met (h : t.Inherits b top name) (hmet : name ∈ (top :: below).map Script.name) :
    t.step b (.underway top below) = .ended (.error (.configuration
      (.cyclicTemplate (name :: (top :: below).map Script.name)))) := by
  rw [step, h.parentName]
  exact if_pos hmet

theorem step_missing (h : t.Inherits b top name) (hnew : name ∉ (top :: below).map Script.name)
    (hmissing : OrderedMap.get? t name = none) :
    t.step b (.underway top below) = .ended (.error (.configuration (.noSuchTemplate name))) := by
  rw [step, h.parentName]
  dsimp only
  rw [if_neg hnew, hmissing]

theorem step_up (h : t.Inherits b top name) (hnew : name ∉ (top :: below).map Script.name)
    (hfound : OrderedMap.get? t name = some template) :
    t.step b (.underway top below) = .underway template (top :: below) := by
  rw [step, h.parentName]
  dsimp only
  rw [if_neg hnew, hfound]

/-- A climb that is over stays over. -/
theorem iterate_step_ended (t : Templates) (b : Bindings)
    (result : Except ResolveError (List Script)) (n : Nat) :
    (t.step b)^[n] (.ended result) = .ended result :=
  Function.iterate_fixed rfl n

/-- However many steps are made, a climb is over with one result. -/
theorem ended_unique {climb : Climb} {m n : Nat} (h : (t.step b)^[m] climb = .ended result)
    (h' : (t.step b)^[n] climb = .ended result') : result = result' := by
  have hleft : (t.step b)^[n + m] climb = .ended result := by
    rw [Function.iterate_add_apply, h, iterate_step_ended]
  have hright : (t.step b)^[m + n] climb = .ended result' := by
    rw [Function.iterate_add_apply, h', iterate_step_ended]
  rw [Nat.add_comm] at hleft
  cases hleft.symm.trans hright
  rfl

/-! ### What a step keeps -/

/-- A climb is on a lineage of the script, or it is over with something that it can lead to. -/
def Sound (t : Templates) (b : Bindings) (s : Script) : Climb → Prop
  | .underway top below => t.Lineage b s (top :: below)
  | .ended result => t.LeadsTo b s result

/-- **A step keeps a climb sound.** -/
theorem step_sound (hkeyed : t.Keyed) {climb : Climb} (h : t.Sound b s climb) :
    t.Sound b s (t.step b climb) := by
  cases climb with
  | ended result => exact h
  | underway top below =>
    rcases t.parent_cases b top with ⟨name, hparent⟩ | htop | ⟨name, hunbound⟩
    · by_cases hmet : name ∈ (top :: below).map Script.name
      · rw [step_met hparent hmet]
        exact .cyclic h hparent hmet
      · cases hfound : OrderedMap.get? t name with
        | none =>
          rw [step_missing hparent hmet hfound]
          exact .dangling h hparent hmet hfound
        | some template =>
          -- the template stands under the new name, so its own name is new
          rw [step_up hparent hmet hfound]
          have hname := hkeyed name template hfound
          exact Lineage.cons h ⟨name, hparent, hfound⟩ (hname ▸ hmet)
    · rw [step_top htop]
      exact .complete h htop
    · rw [step_unbound hunbound]
      exact .unbound h hunbound

/-- So does any number of steps from the script itself. -/
theorem iterate_step_sound (hkeyed : t.Keyed) (b : Bindings) (s : Script) (n : Nat) :
    t.Sound b s ((t.step b)^[n] (.underway s [])) := by
  induction n with
  | zero => exact Lineage.single t b s
  | succ n ih =>
    rw [Function.iterate_succ_apply']
    exact step_sound hkeyed ih

/-! ### What is reached -/

/-- **Every lineage is reached**, by as many steps as it has parents. Induction on the scripts below
the ancestor. -/
theorem Lineage.reached (hkeyed : t.Keyed) (h : t.Lineage b s (top :: below)) :
    (t.step b)^[below.length] (.underway s []) = .underway top below := by
  induction below generalizing top with
  | nil =>
    cases h.ends
    rfl
  | cons next rest ih =>
    obtain ⟨name, hparent, hfound⟩ := (List.isChain_cons_cons.1 h.linked).1
    have hnew := (List.nodup_cons.1 h.distinct).1
    rw [hkeyed name top hfound] at hnew
    rw [List.length_cons, Function.iterate_succ_apply', ih h.tail]
    exact step_up hparent hnew hfound

/-- Whatever a climb can lead to is reached, by one step from the lineage. -/
theorem LeadsTo.reached (hkeyed : t.Keyed) (h : t.LeadsTo b s result) :
    ∃ n, (t.step b)^[n] (.underway s []) = .ended result := by
  have hnext : ∀ {top : Script} {below : List Script}, t.Lineage b s (top :: below) →
      t.step b (.underway top below) = .ended result →
      ∃ n, (t.step b)^[n] (.underway s []) = .ended result := by
    intro top below hlineage hstep
    refine ⟨below.length + 1, ?_⟩
    rw [Function.iterate_succ_apply', hlineage.reached hkeyed, hstep]
  cases h with
  | complete hlineage htop => exact hnext hlineage (step_top htop b _)
  | cyclic hlineage hparent hmet => exact hnext hlineage (step_met hparent hmet)
  | dangling hlineage hparent hnew hmissing =>
    exact hnext hlineage (step_missing hparent hnew hmissing)
  | unbound hlineage hunbound => exact hnext hlineage (step_unbound hunbound t _)

/-! ## Chains -/

theorem ancestors_of_met {visited : List String} (h : t.Inherits b top name)
    (hmet : name ∈ visited) : t.ancestors b visited top =
      .error (.configuration (.cyclicTemplate (name :: visited))) := by
  rw [ancestors, h.parentName]
  exact dif_pos hmet

theorem ancestors_of_missing {visited : List String} (h : t.Inherits b top name)
    (hnew : name ∉ visited) (hmissing : OrderedMap.get? t name = none) :
    t.ancestors b visited top = .error (.configuration (.noSuchTemplate name)) := by
  rw [ancestors, h.parentName]
  dsimp only
  rw [dif_neg hnew]
  split
  · rfl
  · next hfound => cases hmissing.symm.trans hfound

theorem ancestors_of_found {visited : List String} (h : t.Inherits b top name)
    (hnew : name ∉ visited) (hfound : OrderedMap.get? t name = some template) :
    t.ancestors b visited top = (t.ancestors b (name :: visited) template).map (template :: ·) := by
  rw [ancestors, h.parentName]
  dsimp only
  rw [dif_neg hnew]
  split
  · next hmissing => cases hmissing.symm.trans hfound
  · next found =>
    cases found.symm.trans hfound
    cases t.ancestors b (name :: visited) template <;> rfl

/-- What a climb comes to: the ancestors of the script it has come to, on top of this script and those
below it. -/
def summit (t : Templates) (b : Bindings) : Climb → Except ResolveError (List Script)
  | .ended result => result
  | .underway top below =>
    (t.ancestors b ((top :: below).map Script.name) top).map
      fun above => above.reverse ++ top :: below

/-- The number of steps that a climb can still take: one for each template whose name was not met, and
one. -/
def remaining (t : Templates) : Climb → Nat
  | .ended _ => 0
  | .underway top below => (t.unvisited ((top :: below).map Script.name)).length + 1

theorem chain_eq_summit (t : Templates) (b : Bindings) (s : Script) :
    t.chain b s = t.summit b (.underway s []) := by
  unfold chain
  show _ = (t.ancestors b [s.name] s).map fun above => above.reverse ++ [s]
  cases t.ancestors b [s.name] s <;> rfl

/-- **A step does not change what a climb comes to.** -/
theorem summit_step (hkeyed : t.Keyed) (b : Bindings) (climb : Climb) :
    t.summit b (t.step b climb) = t.summit b climb := by
  cases climb with
  | ended result => rfl
  | underway top below =>
    rcases t.parent_cases b top with ⟨name, hparent⟩ | htop | ⟨name, hunbound⟩
    · by_cases hmet : name ∈ (top :: below).map Script.name
      · rw [step_met hparent hmet, summit, summit, ancestors_of_met hparent hmet]
        rfl
      · cases hfound : OrderedMap.get? t name with
        | none =>
          rw [step_missing hparent hmet hfound, summit, summit,
            ancestors_of_missing hparent hmet hfound]
          rfl
        | some template =>
          rw [step_up hparent hmet hfound, summit, summit, ancestors_of_found hparent hmet hfound,
            List.map_cons, hkeyed name template hfound]
          cases t.ancestors b (name :: (top :: below).map Script.name) template with
          | error e => rfl
          | ok above =>
            have hreverse : above.reverse ++ template :: top :: below =
                (template :: above).reverse ++ top :: below := by
              rw [List.reverse_cons, List.append_assoc]
              rfl
            exact congrArg Except.ok hreverse
    · rw [step_top htop, summit, summit, ancestors, htop.parentName]
      rfl
    · rw [step_unbound hunbound, summit, summit, ancestors, hunbound.parentName]
      rfl

/-- **A step is one of those that remained.** -/
theorem remaining_step (hkeyed : t.Keyed) (b : Bindings) (climb : Climb) :
    t.remaining (t.step b climb) ≤ t.remaining climb - 1 := by
  cases climb with
  | ended result => exact Nat.le_refl 0
  | underway top below =>
    rcases t.parent_cases b top with ⟨name, hparent⟩ | htop | ⟨name, hunbound⟩
    · by_cases hmet : name ∈ (top :: below).map Script.name
      · rw [step_met hparent hmet]
        exact Nat.zero_le _
      · cases hfound : OrderedMap.get? t name with
        | none =>
          rw [step_missing hparent hmet hfound]
          exact Nat.zero_le _
        | some template =>
          have hless := length_unvisited_lt (mem_keys_of_get? hfound) hmet
          rw [step_up hparent hmet hfound, remaining, remaining, List.map_cons,
            hkeyed name template hfound]
          exact hless
    · rw [step_top htop]
      exact Nat.zero_le _
    · rw [step_unbound hunbound]
      exact Nat.zero_le _

/-- Both hold of any number of steps. -/
theorem iterate_step (hkeyed : t.Keyed) (b : Bindings) (climb : Climb) (n : Nat) :
    t.summit b ((t.step b)^[n] climb) = t.summit b climb
      ∧ t.remaining ((t.step b)^[n] climb) ≤ t.remaining climb - n := by
  induction n with
  | zero => exact ⟨rfl, Nat.le_refl _⟩
  | succ n ih =>
    have hstep := remaining_step hkeyed b ((t.step b)^[n] climb)
    rw [Function.iterate_succ_apply']
    exact ⟨(summit_step hkeyed b _).trans ih.1, by omega⟩

/-- **A climb is over after one step for each template and one more**, with the chain as its result. -/
theorem iterate_step_eq_chain (hkeyed : t.Keyed) (b : Bindings) (s : Script) :
    (t.step b)^[t.length + 1] (.underway s []) = .ended (t.chain b s) := by
  obtain ⟨hsummit, hremaining⟩ := iterate_step hkeyed b (.underway s []) (t.length + 1)
  have hall : t.remaining (.underway s []) ≤ t.length + 1 := by
    have hkeys : (OrderedMap.keys t).length = t.length := List.length_map _
    refine Nat.succ_le_succ ?_
    rw [← hkeys]
    exact List.length_filter_le _ _
  have hnone : t.remaining ((t.step b)^[t.length + 1] (.underway s [])) = 0 := by omega
  rw [chain_eq_summit, ← hsummit]
  cases hend : (t.step b)^[t.length + 1] (.underway s []) with
  | ended result => rfl
  | underway top below =>
    rw [hend] at hnone
    cases hnone

/-- **The chain is what the climb leads to.** -/
theorem chain_eq_iff (hkeyed : t.Keyed) : t.chain b s = result ↔ t.LeadsTo b s result := by
  have hchain := iterate_step_eq_chain hkeyed b s
  constructor
  · rintro rfl
    have hsound := iterate_step_sound hkeyed b s (t.length + 1)
    rw [hchain] at hsound
    exact hsound
  · intro h
    obtain ⟨n, hended⟩ := h.reached hkeyed
    exact ended_unique hchain hended

/-- The names of a cycle. -/
theorem LeadsTo.cycle {names : List String}
    (h : t.LeadsTo b s (.error (.configuration (.cyclicTemplate names)))) :
    ∃ name, names.head? = some name ∧ names.count name = 2 ∧ names.tail.Nodup
      ∧ names.getLast? = some s.name := by
  cases h with
  | @cyclic top below name hlineage hparent hmet =>
    refine ⟨name, rfl, ?_, hlineage.distinct, ?_⟩
    · rw [List.count_cons_self, List.count_eq_one_of_mem hlineage.distinct hmet]
    · have hends := congrArg (Option.map Script.name) hlineage.ends
      rw [← List.getLast?_map] at hends
      exact hends

/-- **The chain of a script.** Whatever was registered and bound, the climb is over after one step for
each template and one more. Its result is the one thing that it can lead to: the lineage up to a script
without a parent; the names of a lineage whose topmost script inherits from one of them, below this
name; the first name that is new and has no template; or the first unbound variable by which a script
of the lineage names its template. In a cycle, the repeated name comes first and once more, no other
name comes twice, and the name of the script comes last. -/
theorem chain_correct (scripts : List Script) (b : Bindings) (s : Script) :
    ((ofScripts scripts).step b)^[(ofScripts scripts).length + 1] (.underway s []) =
        .ended ((ofScripts scripts).chain b s)
    ∧ (∀ result, (ofScripts scripts).chain b s = result ↔ (ofScripts scripts).LeadsTo b s result)
    ∧ ∀ names, (ofScripts scripts).chain b s = .error (.configuration (.cyclicTemplate names)) →
        ∃ name, names.head? = some name ∧ names.count name = 2 ∧ names.tail.Nodup
          ∧ names.getLast? = some s.name := by
  have hkeyed := keyed_ofScripts scripts
  refine ⟨iterate_step_eq_chain hkeyed b s, fun _ => chain_eq_iff hkeyed, ?_⟩
  intro names hcyclic
  exact ((chain_eq_iff hkeyed).1 hcyclic).cycle

end RestSuite.Templates
