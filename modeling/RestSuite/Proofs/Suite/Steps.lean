import RestSuite.Proofs.Call.Frame
import RestSuite.Suite.Run

/-!
# What taking a node can do

`Suite.take` reads a node, combines it with its templates and runs it, and can leave at each of
these steps. This module says once what that comes to, and how a property of suites is carried
through a whole run.

* **`Suite.Taken`** — the five ways to take a node, each with the suite that is left.
* **`Suite.take_taken`** — there is no other way.
* **`Suite.Rejects`** — the node is turned away before anything of it is run; `Suite.accepts` tells.
* **`Suite.turns`** — the nodes that a run takes, each with the suite in which it is taken.
* **`Suite.Runs`**, **`Suite.runs_iff`** — how a run goes through nodes, with its turns and the suite
  that it leaves. What is said of `Suite.turns` and `Suite.takeAll` is proved by induction on it.
* **`Suite.takeAll_cons_of_stopped`, `Suite.takeAll_cons_of_going`, `Suite.takeAll_cons_of_ended`** —
  a run by its first node.
* **`Suite.takeAll_induction`, `Suite.execute_induction`** — what every node and every look at the
  flag keeps is kept by a run.
-/

namespace RestSuite

/-! ## Calls in a history -/

/-- Entering a call changes at most its state. -/
theorem Call.reported_eq (call : Call) : ∃ state, call.reported = call.inState state := by
  unfold Call.reported
  by_cases hstate : call.state = .asserted
  · exact ⟨.reported, if_pos hstate⟩
  · exact ⟨call.state, if_neg hstate⟩

theorem Call.reported_isSuccessful (call : Call) :
    call.reported.isSuccessful = call.isSuccessful := by
  obtain ⟨state, hreported⟩ := call.reported_eq
  rw [hreported]
  rfl

theorem Call.reported_cancelled (call : Call) : call.reported.cancelled = call.cancelled := by
  obtain ⟨state, hreported⟩ := call.reported_eq
  rw [hreported]
  rfl

namespace Suite

variable {σ : Type} {s s' : Suite σ} {node : Json}

/-! ## Steps of taking a node -/

/-- The call of a resolved script, and the world it leaves. -/
def outcome (s : Suite σ) (script : Script) (resolved : ResolvedScript) : Call × World σ :=
  s.caller.run resolved (s.noting script).world

/-- The suite once a script was run and its call entered. -/
def entering (s : Suite σ) (script : Script) (resolved : ResolvedScript) : Suite σ :=
  s.enter script (s.outcome script resolved)

/-- The ways to take a node, with the suite that is left and whether the run goes on. -/
inductive Taken (s : Suite σ) (node : Json) : Suite σ × Bool → Prop where
  /-- The node is no script. -/
  | malformed {e : ConfigurationError} (hread : Script.ofJson node = .error e) :
      Taken s node (s.report (.rejected (nodeName node) (.configuration e)), true)
  /-- The script, a template or not, cannot be combined with the templates above it. -/
  | unresolved {script : Script} {e : ResolveError} (hread : Script.ofJson node = .ok script)
      (hresolve : script.resolve s.templates s.bindings = .error e) :
      Taken s node ((s.noting script).report (.rejected script.name (.ofResolve e)), true)
  /-- The template is accepted. -/
  | registered {template : Script} {resolved : ResolvedScript}
      (hread : Script.ofJson node = .ok template) (htemplate : template.isTemplate = true)
      (hresolve : template.resolve s.templates s.bindings = .ok resolved) :
      Taken s node
        ({ s.noting template with templates := s.templates.register template }, true)
  /-- The script is run, and the run goes on. -/
  | wentOn {script : Script} {resolved : ResolvedScript}
      (hread : Script.ofJson node = .ok script) (hscript : script.isTemplate = false)
      (hresolve : script.resolve s.templates s.bindings = .ok resolved)
      (hgoing : s.endsRun (s.outcome script resolved).1 = false) :
      Taken s node (s.entering script resolved, true)
  /-- The script is run, and its call ends the run. -/
  | endedEarly {script : Script} {resolved : ResolvedScript}
      (hread : Script.ofJson node = .ok script) (hscript : script.isTemplate = false)
      (hresolve : script.resolve s.templates s.bindings = .ok resolved)
      (hends : s.endsRun (s.outcome script resolved).1 = true) :
      Taken s node
        ({ s.entering script resolved with
          world := (s.entering script resolved).world.note .stoppedEarly }, false)

/-- **Every way to take a node.** -/
theorem take_taken (s : Suite σ) (node : Json) : s.Taken node (s.take node) := by
  unfold take
  cases hread : Script.ofJson node with
  | error e => exact .malformed hread
  | ok script =>
    cases hresolve : script.resolve s.templates s.bindings with
    | error e =>
      -- a template and a script are turned away in the same words
      have hunresolved := Taken.unresolved hread hresolve
      cases htemplate : script.isTemplate with
      | true =>
        simp only [define, hresolve, if_true, htemplate]
        exact hunresolved
      | false =>
        simp only [hresolve, htemplate, Bool.false_eq_true, if_false]
        exact hunresolved
    | ok resolved =>
      cases htemplate : script.isTemplate with
      | true =>
        simp only [define, hresolve, if_true, htemplate]
        exact .registered hread htemplate hresolve
      | false =>
        simp only [hresolve, htemplate, Bool.false_eq_true, if_false]
        show s.Taken node
          (if s.endsRun (s.outcome script resolved).1 then
            ({ s.entering script resolved with
              world := (s.entering script resolved).world.note .stoppedEarly }, false)
          else (s.entering script resolved, true))
        cases hends : s.endsRun (s.outcome script resolved).1 with
        | true => exact .endedEarly hread htemplate hresolve hends
        | false => exact .wentOn hread htemplate hresolve hends

/-! ## Nodes that are turned away -/

/-- The node is turned away: it is no script, or it cannot be combined with the templates above it. -/
inductive Rejects (s : Suite σ) (node : Json) : Prop where
  | malformed {e : ConfigurationError} (hread : Script.ofJson node = .error e)
  | unresolved {script : Script} {e : ResolveError} (hread : Script.ofJson node = .ok script)
      (hresolve : script.resolve s.templates s.bindings = .error e)

/-- The node is read and can be combined with the templates above it. -/
def accepts (s : Suite σ) (node : Json) : Bool :=
  match Script.ofJson node with
  | .error _ => false
  | .ok script => (script.resolve s.templates s.bindings).isOk

/-- A node is either turned away or accepted. -/
theorem rejects_iff : s.Rejects node ↔ s.accepts node = false := by
  unfold accepts
  constructor
  · rintro (hread | ⟨hread, hresolve⟩)
    · rw [hread]
    · rw [hread]
      dsimp only
      rw [hresolve]
      rfl
  · intro hrejected
    split at hrejected
    · next hread => exact .malformed hread
    · next script hread =>
      cases hresolve : script.resolve s.templates s.bindings with
      | error e => exact .unresolved hread hresolve
      | ok resolved =>
        rw [hresolve] at hrejected
        cases hrejected

/-- What is turned away is not read and combined with its templates. -/
theorem Rejects.not_resolved (h : s.Rejects node) {script : Script} {resolved : ResolvedScript}
    (hread : Script.ofJson node = .ok script)
    (hresolve : script.resolve s.templates s.bindings = .ok resolved) : False := by
  cases h with
  | malformed hread' => cases hread.symm.trans hread'
  | unresolved hread' hresolve' =>
    cases hread.symm.trans hread'
    cases hresolve.symm.trans hresolve'

/-- **A node that is turned away enters a call of which nothing was done.** -/
theorem Rejects.take_history (h : s.Rejects node) :
    ∃ script e, (s.take node).1.history = s.history ++ [Call.rejected script e] := by
  have htaken := s.take_taken node
  generalize s.take node = r at htaken ⊢
  cases htaken with
  | malformed _ => exact ⟨_, _, rfl⟩
  | unresolved _ _ => exact ⟨_, _, rfl⟩
  | registered hread _ hresolve => exact (h.not_resolved hread hresolve).elim
  | wentOn hread _ hresolve _ => exact (h.not_resolved hread hresolve).elim
  | endedEarly hread _ hresolve _ => exact (h.not_resolved hread hresolve).elim

/-! ## Runs -/

/-- A node that is taken, and the suite in which it is. -/
structure Turn (σ : Type) where
  suite : Suite σ
  node : Json

/-- The nodes that a run takes, each with the suite in which it is taken. -/
def turns (s : Suite σ) : List Json → List (Turn σ)
  | [] => []
  | node :: rest =>
    match s.round node with
    | .stopped _ => []
    | .ended _ => [⟨s.poll, node⟩]
    | .going t => ⟨s.poll, node⟩ :: t.turns rest

/-- How a run goes through nodes: the turns that it takes, and the suite that it leaves. -/
inductive Runs : Suite σ → List Json → List (Turn σ) → Suite σ → Prop where
  /-- There is no further node. -/
  | done (s : Suite σ) : Runs s [] [] s
  /-- A stop is seen before the node. -/
  | stopped {s : Suite σ} {node : Json} {rest : List Json}
      (hstop : s.poll.world.stopped = true) : Runs s (node :: rest) [] s.poll
  /-- The node is taken, and its call ends the run. -/
  | ended {s t : Suite σ} {node : Json} {rest : List Json}
      (hgoing : s.poll.world.stopped = false) (htake : s.poll.take node = (t, false)) :
      Runs s (node :: rest) [⟨s.poll, node⟩] t
  /-- The node is taken, and the run goes on with the rest. -/
  | going {s s₁ t : Suite σ} {node : Json} {rest : List Json} {turns : List (Turn σ)}
      (hgoing : s.poll.world.stopped = false) (htake : s.poll.take node = (s₁, true))
      (hrest : Runs s₁ rest turns t) : Runs s (node :: rest) (⟨s.poll, node⟩ :: turns) t

/-- There is no other way. -/
theorem runs_takeAll (s : Suite σ) (nodes : List Json) :
    s.Runs nodes (s.turns nodes) (s.takeAll nodes) := by
  induction nodes generalizing s with
  | nil => exact .done s
  | cons node rest ih =>
    unfold turns takeAll round
    dsimp only
    cases hstop : s.poll.world.stopped with
    | true => exact .stopped hstop
    | false =>
      rcases htake : s.poll.take node with ⟨t, _ | _⟩
      · exact .ended hstop htake
      · exact .going hstop htake (ih t)

/-- A run goes in one way only. -/
theorem Runs.unique {nodes : List Json} {turns turns' : List (Turn σ)} {t t' : Suite σ}
    (h : s.Runs nodes turns t) (h' : s.Runs nodes turns' t') : turns' = turns ∧ t' = t := by
  induction h generalizing turns' with
  | done s =>
    cases h'
    exact ⟨rfl, rfl⟩
  | stopped hstop =>
    cases h' with
    | stopped _ => exact ⟨rfl, rfl⟩
    | ended hgoing _ => cases hstop.symm.trans hgoing
    | going hgoing _ _ => cases hstop.symm.trans hgoing
  | ended hgoing htake =>
    cases h' with
    | stopped hstop => cases hstop.symm.trans hgoing
    | ended _ htake' => cases htake.symm.trans htake'; exact ⟨rfl, rfl⟩
    | going _ htake' _ => cases htake.symm.trans htake'
  | going hgoing htake _ ih =>
    cases h' with
    | stopped hstop => cases hstop.symm.trans hgoing
    | ended _ htake' => cases htake.symm.trans htake'
    | going _ htake' hrest' =>
      cases htake.symm.trans htake'
      obtain ⟨rfl, rfl⟩ := ih hrest'
      exact ⟨rfl, rfl⟩

/-- **The turns of a run and what it leaves belong together.** What is said of one of them is proved by
induction on both. -/
theorem runs_iff {nodes : List Json} {turns : List (Turn σ)} {t : Suite σ} :
    s.Runs nodes turns t ↔ s.turns nodes = turns ∧ s.takeAll nodes = t := by
  constructor
  · intro h
    exact h.unique (s.runs_takeAll nodes)
  · rintro ⟨rfl, rfl⟩
    exact s.runs_takeAll nodes

/-- A stop that is seen ends the run before the node. -/
theorem takeAll_cons_of_stopped {rest : List Json} (hstop : s.poll.world.stopped = true) :
    s.takeAll (node :: rest) = s.poll :=
  (runs_iff.1 (.stopped hstop)).2

/-- The node is taken, and the run goes on with the rest. -/
theorem takeAll_cons_of_going {rest : List Json} {s₁ : Suite σ}
    (hgoing : s.poll.world.stopped = false) (htake : s.poll.take node = (s₁, true)) :
    s.takeAll (node :: rest) = s₁.takeAll rest :=
  (runs_iff.1 (.going hgoing htake (s₁.runs_takeAll rest))).2

/-- The node is taken, and its call ends the run. -/
theorem takeAll_cons_of_ended {rest : List Json} {s₁ : Suite σ}
    (hgoing : s.poll.world.stopped = false) (htake : s.poll.take node = (s₁, false)) :
    s.takeAll (node :: rest) = s₁ :=
  (runs_iff.1 (.ended hgoing htake)).2

/-- What every look at the flag and every node of a document keeps is kept by all of them together. -/
theorem takeAll_induction_mem {P : Suite σ → Prop} {nodes : List Json}
    (hpoll : ∀ s, P s → P s.poll) (htake : ∀ s, ∀ node ∈ nodes, P s → P (s.take node).1)
    (h : P s) : P (s.takeAll nodes) := by
  have hruns := s.runs_takeAll nodes
  generalize s.turns nodes = turns, s.takeAll nodes = t at hruns ⊢
  induction hruns with
  | done s => exact h
  | stopped _ => exact hpoll _ h
  | @ended s t node rest _ hleft =>
    have htaken := htake s.poll node List.mem_cons_self (hpoll s h)
    rw [hleft] at htaken
    exact htaken
  | @going s s₁ t node rest _ _ hleft _ ih =>
    have htaken := htake s.poll node List.mem_cons_self (hpoll s h)
    rw [hleft] at htaken
    exact ih (fun s node hmem => htake s node (List.mem_cons_of_mem _ hmem)) htaken

/-- So is what every node keeps. -/
theorem takeAll_induction {P : Suite σ → Prop} (hpoll : ∀ s, P s → P s.poll)
    (htake : ∀ s node, P s → P (s.take node).1) (nodes : List Json) (h : P s) :
    P (s.takeAll nodes) :=
  takeAll_induction_mem hpoll (fun s node _ => htake s node) h

/-- A run ends with one more look at the flag and, if it was stopped, with an event. -/
theorem execute_induction_mem {P : Suite σ → Prop} {document : Json}
    (hpoll : ∀ s, P s → P s.poll) (htake : ∀ s, ∀ node ∈ nodes document, P s → P (s.take node).1)
    (hpublish : ∀ s : Suite σ, P s → P { s with world := s.world.publish .cancelled })
    (h : P s) : P (s.execute document) := by
  have htaken := hpoll _ (takeAll_induction_mem hpoll htake h)
  unfold execute close
  split
  · exact hpublish _ htaken
  · exact htaken

theorem execute_induction {P : Suite σ → Prop} (hpoll : ∀ s, P s → P s.poll)
    (htake : ∀ s node, P s → P (s.take node).1)
    (hpublish : ∀ s : Suite σ, P s → P { s with world := s.world.publish .cancelled })
    (document : Json) (h : P s) : P (s.execute document) :=
  execute_induction_mem hpoll (fun s node _ => htake s node) hpublish h

theorem execute_history (s : Suite σ) (document : Json) :
    (s.execute document).history = (s.takeAll (nodes document)).history := by
  unfold execute close
  split <;> rfl

/-- The end of a run leaves the flag as it is. -/
theorem close_isCancelled (s : Suite σ) : s.close.isCancelled = s.world.stopped := by
  unfold close isCancelled
  split <;> rfl

theorem execute_isCancelled (s : Suite σ) (document : Json) :
    (s.execute document).isCancelled = (s.takeAll (nodes document)).poll.world.stopped :=
  close_isCancelled _

/-! ## The flag -/

theorem poll_stopped (h : s.world.stopped = true) : s.poll.world.stopped = true :=
  World.stopped_settle _ h

/-- Where a look finds the flag clear, it was clear before. -/
theorem clear_of_poll (h : s.poll.world.stopped = false) : s.world.stopped = false := by
  cases hstop : s.world.stopped with
  | false => rfl
  | true => exact (poll_stopped hstop).symm.trans h

/-- A call that is run does not take a stop back. -/
theorem outcome_stopped (script : Script) (resolved : ResolvedScript)
    (h : s.world.stopped = true) : (s.outcome script resolved).2.stopped = true := by
  have hrun := s.caller.quiet_stopped.run (fun _ _ => World.stopped_settle _) resolved
    (s.noting script).world
  exact hrun h

/-- **Taking a node does not take a stop back.** -/
theorem Taken.stopped {r : Suite σ × Bool} (h : s.Taken node r) (hstop : s.world.stopped = true) :
    r.1.world.stopped = true := by
  cases h with
  | malformed _ => exact hstop
  | unresolved _ _ => exact hstop
  | registered _ _ _ => exact hstop
  | wentOn _ _ _ _ => exact outcome_stopped _ _ hstop
  | endedEarly _ _ _ _ => exact outcome_stopped _ _ hstop

theorem takeAll_stopped (nodes : List Json) (h : s.world.stopped = true) :
    (s.takeAll nodes).world.stopped = true :=
  takeAll_induction (P := fun s => s.world.stopped = true) (fun _ => poll_stopped)
    (fun s node => (s.take_taken node).stopped) nodes h

end Suite

end RestSuite
