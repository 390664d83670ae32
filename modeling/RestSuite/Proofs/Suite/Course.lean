import RestSuite.Proofs.Call.Success
import RestSuite.Proofs.Suite.Steps

/-!
# The course of a run

`Suite.takeAll` goes from node to node and can leave before a node, because a stop was seen, or behind
one, because its call ended the run. This module says which nodes a run takes and which calls it
enters for them.

* **`Suite.Proceeds`** — nodes that were taken one after the other, without the run being left.
* **`Suite.Reaches`** — the run comes as far as to take a further node.
* **`Suite.Reaches.takeAll_eq_of_ended`**, **`Suite.Reaches.takeAll_of_stopped`** — how the run ends
  at a node that it reaches.
* **`Suite.Entered`** — the two kinds of calls that a node enters.
* **`Suite.Taken.history`**, **`Suite.execute_newCalls`** — a node enters one call or none, so what
  holds of every call behind which a further node is taken holds of all new calls but the last.
-/

namespace RestSuite.Suite

variable {σ : Type} {s s₁ s₂ t u : Suite σ} {node : Json} {nodes before after rest : List Json}

/-! ## Nodes that are taken -/

/-- From a suite to a suite, the nodes are taken one after the other: no stop is seen before any of
them, and none of their calls ends the run. -/
inductive Proceeds : Suite σ → List Json → Suite σ → Prop where
  | nil (s : Suite σ) : Proceeds s [] s
  | cons {s s₁ s₂ : Suite σ} {node : Json} {rest : List Json}
      (hgoing : s.poll.world.stopped = false) (htake : s.poll.take node = (s₁, true))
      (hrest : Proceeds s₁ rest s₂) : Proceeds s (node :: rest) s₂

/-- Behind these nodes the run takes a further node, if there is one, in this suite. -/
inductive Reaches (s : Suite σ) (before : List Json) : Suite σ → Prop where
  | intro {t : Suite σ} (hproceeds : s.Proceeds before t) (hgoing : t.poll.world.stopped = false) :
      Reaches s before t.poll

theorem Reaches.cons (hgoing : s.poll.world.stopped = false)
    (htake : s.poll.take node = (s₁, true)) (h : s₁.Reaches before t) :
    s.Reaches (node :: before) t := by
  obtain ⟨hproceeds, hgoing'⟩ := h
  exact .intro (.cons hgoing htake hproceeds) hgoing'

/-- A run that reaches a node behind another one takes that one and goes on. -/
theorem Reaches.cons_inv (h : s.Reaches (node :: before) t) :
    ∃ s₁, s.poll.world.stopped = false ∧ s.poll.take node = (s₁, true) ∧ s₁.Reaches before t := by
  obtain ⟨hproceeds, hgoing'⟩ := h
  cases hproceeds with
  | cons hgoing htake hrest => exact ⟨_, hgoing, htake, .intro hrest hgoing'⟩

/-- Where a stop is seen at once, nothing is reached. -/
theorem Reaches.going (h : s.Reaches before t) : s.poll.world.stopped = false := by
  cases before with
  | nil =>
    obtain ⟨hproceeds, hgoing⟩ := h
    cases hproceeds
    exact hgoing
  | cons node rest =>
    obtain ⟨_, hgoing, -, -⟩ := h.cons_inv
    exact hgoing

/-- What comes after the nodes starts from where they lead. -/
theorem Proceeds.takeAll_append (h : s.Proceeds before t) (after : List Json) :
    s.takeAll (before ++ after) = t.takeAll after := by
  induction h with
  | nil s => rfl
  | cons hgoing htake _ ih => rw [List.cons_append, takeAll_cons_of_going hgoing htake, ih]

/-- The nodes lead to one suite. -/
theorem Proceeds.unique (h : s.Proceeds nodes t) (h' : s.Proceeds nodes u) : t = u := by
  induction h with
  | nil s => cases h'; rfl
  | cons _ htake _ ih =>
    cases h' with
    | cons _ htake' hrest' =>
      cases htake.symm.trans htake'
      exact ih hrest'

/-- The last of the nodes is taken behind the others. -/
theorem Proceeds.concat_inv (h : s.Proceeds (before ++ [node]) u) :
    ∃ t, s.Reaches before t ∧ t.take node = (u, true) := by
  induction before generalizing s with
  | nil =>
    cases h with
    | cons hgoing htake hrest => cases hrest; exact ⟨_, .intro (.nil s) hgoing, htake⟩
  | cons first rest ih =>
    cases h with
    | cons hgoing htake hrest =>
      obtain ⟨t, hreaches, htake'⟩ := ih hrest
      exact ⟨t, hreaches.cons hgoing htake, htake'⟩

theorem Reaches.unique (h : s.Reaches before t) (h' : s.Reaches before u) : t = u := by
  obtain ⟨hproceeds, -⟩ := h
  obtain ⟨hproceeds', -⟩ := h'
  rw [hproceeds.unique hproceeds']

/-- A node behind another one is taken from the suite that the other one left. -/
theorem Reaches.of_concat (h : s.Reaches before t) (h' : s.Reaches (before ++ [node]) u) :
    t.take node = ((t.take node).1, true) ∧ u = (t.take node).1.poll
      ∧ (t.take node).1.poll.world.stopped = false := by
  obtain ⟨hproceeds, hgoing⟩ := h'
  obtain ⟨t', hreaches, htake⟩ := hproceeds.concat_inv
  obtain rfl := h.unique hreaches
  rw [htake]
  exact ⟨rfl, rfl, hgoing⟩

/-! ## How a run ends -/

/-- A run that a call has ended is left as this call left it. -/
theorem Reaches.takeAll_eq_of_ended (h : s.Reaches before t) (htake : t.take node = (u, false))
    (after : List Json) : s.takeAll (before ++ node :: after) = u := by
  obtain ⟨hproceeds, hgoing⟩ := h
  rw [hproceeds.takeAll_append, takeAll_cons_of_ended hgoing htake]

/-- A stop that is set by the time a node is left ends the run behind it. -/
theorem Reaches.takeAll_of_stopped (h : s.Reaches before t)
    (hstop : (t.take node).1.poll.world.stopped = true) (after : List Json) :
    s.takeAll (before ++ node :: after) = (t.take node).1
      ∨ s.takeAll (before ++ node :: after) = (t.take node).1.poll := by
  rcases htake : t.take node with ⟨u, go⟩
  rw [htake] at hstop
  cases go with
  | false => exact .inl (h.takeAll_eq_of_ended htake after)
  | true =>
    obtain ⟨hproceeds, hgoing⟩ := h
    rw [hproceeds.takeAll_append, takeAll_cons_of_going hgoing htake]
    cases after with
    | nil => exact .inl rfl
    | cons next rest => exact .inr (takeAll_cons_of_stopped hstop)

/-! ## Calls that are entered -/

/-- A call that leaves the flag clear was not cancelled. -/
theorem outcome_cancelled {script : Script} {resolved : ResolvedScript}
    (hclear : (s.outcome script resolved).2.stopped = false) :
    (s.outcome script resolved).1.cancelled = false := by
  have hends : s.caller.Ends resolved (s.noting script).world (s.outcome script resolved) :=
    s.caller.run_ends resolved (s.noting script).world
  cases hcancelled : (s.outcome script resolved).1.cancelled with
  | false => rfl
  | true => exact (hends.stopped_of_cancelled hcancelled).symm.trans hclear

/-- **A node enters one call into the history, or none.** -/
theorem Taken.history {r : Suite σ × Bool} (h : s.Taken node r) :
    ∃ entered : List Call, r.1.history = s.history ++ entered ∧ entered.length ≤ 1 := by
  have hcall : ∀ call, r.1.history = s.history ++ [call] →
      ∃ entered : List Call, r.1.history = s.history ++ entered ∧ entered.length ≤ 1 :=
    fun call hhistory => ⟨[call], hhistory, Nat.le_refl 1⟩
  cases h with
  | malformed _ => exact hcall _ rfl
  | unresolved _ _ => exact hcall _ rfl
  | registered _ _ _ => exact ⟨[], (List.append_nil _).symm, Nat.zero_le 1⟩
  | wentOn _ _ _ _ => exact hcall _ rfl
  | endedEarly _ _ _ _ => exact hcall _ rfl

/-- A call that was entered is that of a node that was turned away, or that of a script that was run. -/
inductive Entered (s : Suite σ) (node : Json) (r : Suite σ × Bool) (call : Call) : Prop where
  | rejected {script : String} {e : CallError} (hrejects : s.Rejects node)
      (hcall : call = .rejected script e)
  | performed {script : Script} {resolved : ResolvedScript}
      (hread : Script.ofJson node = .ok script)
      (hresolve : script.resolve s.templates s.bindings = .ok resolved)
      (hcall : call = (s.outcome script resolved).1.reported)
      (hstopped : r.1.world.stopped = (s.outcome script resolved).2.stopped)
      (hgoes : r.2 = !s.endsRun (s.outcome script resolved).1)

theorem Taken.entered {r : Suite σ × Bool} (h : s.Taken node r) {call : Call}
    (hhistory : r.1.history = s.history ++ [call]) : s.Entered node r call := by
  have hcall : ∀ other, s.history ++ [other] = s.history ++ [call] → call = other :=
    fun other heq => (List.singleton_inj.1 (List.append_cancel_left heq)).symm
  cases h with
  | malformed hread => exact .rejected (.malformed hread) (hcall _ hhistory)
  | unresolved hread hresolve =>
    exact .rejected (.unresolved hread hresolve) (hcall _ hhistory)
  | registered _ _ _ =>
    -- an accepted template enters no call
    have hlength := congrArg List.length hhistory
    rw [List.length_append] at hlength
    exact absurd hlength (Nat.ne_of_lt (Nat.lt_add_one _))
  | @wentOn script resolved hread _ hresolve hgoing =>
    have hgoes : true = !s.endsRun (s.outcome script resolved).1 := by rw [hgoing]; rfl
    exact .performed hread hresolve (hcall _ hhistory) rfl hgoes
  | @endedEarly script resolved hread _ hresolve hends =>
    have hgoes : false = !s.endsRun (s.outcome script resolved).1 := by rw [hends]; rfl
    exact .performed hread hresolve (hcall _ hhistory) rfl hgoes

/-- A property of every call behind which the run takes a further node. -/
def HoldsBefore (s : Suite σ) (nodes : List Json) (P : Call → Prop) : Prop :=
  ∀ before node next after t u call, nodes = before ++ node :: next :: after →
    s.Reaches before t → s.Reaches (before ++ [node]) u →
    (t.take node).1.history = t.history ++ [call] → P call

theorem HoldsBefore.tail {P : Call → Prop} (h : s.HoldsBefore (node :: rest) P)
    (hgoing : s.poll.world.stopped = false) (htake : s.poll.take node = (s₁, true)) :
    s₁.HoldsBefore rest P := by
  intro before node' next after t u call hnodes hreaches hnext
  exact h (node :: before) node' next after t u call (by rw [hnodes, List.cons_append])
    (hreaches.cons hgoing htake) (hnext.cons hgoing htake)

/-- What a run adds to a history: calls that have the property, and at most one more. Induction on the
run; behind each node it starts anew from the suite that the node has left. -/
theorem takeAll_history {P : Call → Prop} (s : Suite σ) (nodes : List Json)
    (h : s.HoldsBefore nodes P) :
    ∃ calls last : List Call, (s.takeAll nodes).history = s.history ++ (calls ++ last)
      ∧ (∀ call ∈ calls, P call) ∧ last.length ≤ 1 := by
  have hruns := s.runs_takeAll nodes
  generalize s.turns nodes = turns, s.takeAll nodes = t at hruns ⊢
  induction hruns with
  | done s => exact ⟨[], [], (List.append_nil _).symm, List.forall_mem_nil P, Nat.zero_le 1⟩
  | stopped _ => exact ⟨[], [], (List.append_nil _).symm, List.forall_mem_nil P, Nat.zero_le 1⟩
  | @ended s t node rest _ htake =>
    obtain ⟨entered, hhistory, hlength⟩ := (s.poll.take_taken node).history
    rw [htake] at hhistory
    exact ⟨[], entered, hhistory, List.forall_mem_nil P, hlength⟩
  | @going s s₁ t node rest turns hgoing htake hrest ih =>
    obtain ⟨entered, hhistory, hlength⟩ := (s.poll.take_taken node).history
    rw [htake] at hhistory
    have hhistory : s₁.history = s.history ++ entered := hhistory
    -- a call behind which a further node is taken has the property
    have hentered : ∀ next after, rest = next :: after → s₁.poll.world.stopped = false →
        ∀ call ∈ entered, P call := by
      intro next after hnext hgoing₁ call hcall
      obtain ⟨only, rfl⟩ := List.length_eq_one_iff.1
        (Nat.le_antisymm hlength (List.length_pos_of_mem hcall))
      obtain rfl := List.mem_singleton.1 hcall
      refine h [] node next after s.poll s₁.poll call (by rw [hnext]; rfl) (.intro (.nil s) hgoing)
        (.intro (.cons hgoing htake (.nil s₁)) hgoing₁) ?_
      rw [htake]
      exact hhistory
    have hfurther : (∀ call ∈ entered, P call) → ∃ calls last : List Call,
        t.history = s.history ++ (calls ++ last) ∧ (∀ call ∈ calls, P call) ∧ last.length ≤ 1 := by
      intro hproperty
      obtain ⟨calls, last, hbehind, hcalls, hlast⟩ := ih (h.tail hgoing htake)
      refine ⟨entered ++ calls, last, ?_, List.forall_mem_append.2 ⟨hproperty, hcalls⟩, hlast⟩
      rw [hbehind, hhistory, List.append_assoc, List.append_assoc]
    cases hrest with
    | done => exact ⟨[], entered, hhistory, List.forall_mem_nil P, hlength⟩
    | stopped _ => exact ⟨[], entered, hhistory, List.forall_mem_nil P, hlength⟩
    | ended hgoing₁ _ => exact hfurther (hentered _ _ rfl hgoing₁)
    | going hgoing₁ _ _ => exact hfurther (hentered _ _ rfl hgoing₁)

/-- **All new calls but the last have the property.** -/
theorem takeAll_newCalls {P : Call → Prop} (s : Suite σ) (nodes : List Json)
    (h : s.HoldsBefore nodes P) : ∀ call ∈ (newCalls s (s.takeAll nodes)).dropLast, P call := by
  obtain ⟨calls, last, hhistory, hcalls, hlast⟩ := takeAll_history s nodes h
  have hnew : newCalls s (s.takeAll nodes) = calls ++ last := by
    unfold newCalls
    rw [hhistory, List.drop_left]
  rw [hnew]
  intro call hcall
  cases last with
  | nil =>
    rw [List.append_nil] at hcall
    exact hcalls call (List.dropLast_subset calls hcall)
  | cons only more =>
    have hmore : more.length = 0 := Nat.le_zero.1 (Nat.le_of_succ_le_succ hlast)
    obtain rfl := List.length_eq_zero_iff.1 hmore
    rw [List.dropLast_concat] at hcall
    exact hcalls call hcall

/-- So have all calls that the run of a document adds, but the last. -/
theorem execute_newCalls {P : Call → Prop} (s : Suite σ) (document : Json)
    (h : s.HoldsBefore (Suite.nodes document) P) :
    ∀ call ∈ (newCalls s (s.execute document)).dropLast, P call := by
  have hnew : newCalls s (s.execute document) = newCalls s (s.takeAll (Suite.nodes document)) := by
    unfold newCalls
    rw [execute_history]
  rw [hnew]
  exact takeAll_newCalls s (Suite.nodes document) h

end RestSuite.Suite
