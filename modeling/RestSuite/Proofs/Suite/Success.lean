import RestSuite.Proofs.Call.Success
import RestSuite.Proofs.Suite.Steps

/-!
# What a successful suite has done

`Suite.isSuccessful` counts the calls of the history and looks at the flag. It says nothing of nodes
that left no call, so it has to be shown that no such node went unnoticed.

* **`Suite.Registers`**, **`Suite.Passes`** — what is asked of a node: a template that is accepted, or
  a script whose call passes.
* **`Suite.Green`** — every node of a document was taken, and each did what is asked of it.
* **`Suite.execute_isSuccessful_iff`** — a suite is successful exactly if its run was green and was
  not stopped.
-/

namespace RestSuite.Suite

variable {σ : Type} {s s' : Suite σ} {node : Json}

/-! ## What is asked of nodes -/

/-- The node is a template that is accepted: it can be combined with those above it, and is
registered. -/
inductive Registers (s : Suite σ) (node : Json) (s' : Suite σ) : Prop where
  | intro {template : Script} {resolved : ResolvedScript}
      (hread : Script.ofJson node = .ok template)
      (htemplate : template.isTemplate = true)
      (hresolve : template.resolve s.templates s.bindings = .ok resolved)
      (htemplates : s'.templates = s.templates.register template)

/-- The node is a script that passes: combined with its templates, it leaves one call in the history,
and this call passes. -/
inductive Passes (s : Suite σ) (node : Json) (s' : Suite σ) : Prop where
  | intro {script : Script} {resolved : ResolvedScript} {call : Call}
      (hread : Script.ofJson node = .ok script)
      (hscript : script.isTemplate = false)
      (hresolve : script.resolve s.templates s.bindings = .ok resolved)
      (hhistory : s'.history = s.history ++ [call])
      (hcall : s.caller.Passes resolved (s.noting script).world (call, s'.world))

/-- From a suite to a suite, the nodes were all taken while no stop was seen, and each was accepted
as a template or passed as a script. -/
inductive Green : Suite σ → List Json → Suite σ → Prop where
  | nil (s : Suite σ) : Green s [] s
  | registered {s s₁ s' : Suite σ} {node : Json} {rest : List Json}
      (hgoing : s.poll.world.stopped = false) (htake : s.poll.take node = (s₁, true))
      (hnode : s.poll.Registers node s₁) (hrest : Green s₁ rest s') :
      Green s (node :: rest) s'
  | passed {s s₁ s' : Suite σ} {node : Json} {rest : List Json}
      (hgoing : s.poll.world.stopped = false) (htake : s.poll.take node = (s₁, true))
      (hnode : s.poll.Passes node s₁) (hrest : Green s₁ rest s') :
      Green s (node :: rest) s'

/-! ## One node -/

/-- Entering a call changes neither what was exchanged nor what its record says of that. -/
theorem passes_reported_iff {c : Caller σ} {resolved : ResolvedScript} {w w₁ w₂ : World σ}
    {call : Call} (hsent : w₂.sent = w₁.sent) (hhost : w₂.host = w₁.host) :
    c.Passes resolved w (call.reported, w₂) ↔ c.Passes resolved w (call, w₁) := by
  obtain ⟨state, hreported⟩ := call.reported_eq
  rw [hreported]
  constructor
  · rintro ⟨hone, hrequest, hresponse, hextracted, hpassed, hfailed, hskipped⟩
    exact ⟨hone.congr hsent.symm hhost.symm, hrequest, hresponse, hextracted, hpassed, hfailed, hskipped⟩
  · rintro ⟨hone, hrequest, hresponse, hextracted, hpassed, hfailed, hskipped⟩
    exact ⟨hone.congr hsent hhost, hrequest, hresponse, hextracted, hpassed, hfailed, hskipped⟩

/-- A script that is run passes exactly if its call does. -/
theorem passes_iff {script : Script} {resolved : ResolvedScript}
    (hread : Script.ofJson node = .ok script) (hscript : script.isTemplate = false)
    (hresolve : script.resolve s.templates s.bindings = .ok resolved)
    (hhistory : s'.history = s.history ++ [(s.outcome script resolved).1.reported])
    (hsent : s'.world.sent = (s.outcome script resolved).2.sent)
    (hhost : s'.world.host = (s.outcome script resolved).2.host) :
    s.Passes node s' ↔
      s.caller.Passes resolved (s.noting script).world (s.outcome script resolved) := by
  constructor
  · rintro ⟨hread', -, hresolve', hhistory', hcall⟩
    cases hread.symm.trans hread'
    cases hresolve.symm.trans hresolve'
    have hlast := List.append_cancel_left (hhistory.symm.trans hhistory')
    obtain rfl := List.singleton_inj.1 hlast
    exact (passes_reported_iff hsent hhost).1 hcall
  · intro hcall
    exact .intro hread hscript hresolve hhistory ((passes_reported_iff hsent hhost).2 hcall)

/-- A node that left a call: the call says whether the node passed, and no such node is an accepted
template. -/
structure Enters (s : Suite σ) (node : Json) (r : Suite σ × Bool) (call : Call) : Prop where
  history : r.1.history = s.history ++ [call]
  goes_on : call.isSuccessful = true → r.2 = true
  passes : call.isSuccessful = true → s.Passes node r.1
  isSuccessful : s.Passes node r.1 → r.1.world.stopped = false → call.isSuccessful = true
  not_registers : ¬ s.Registers node r.1

/-- A call that was never run is not successful. -/
theorem not_isSuccessful_rejected (script : String) (e : CallError) :
    (Call.rejected script e).reported.isSuccessful ≠ true := by
  rw [Call.reported_isSuccessful]
  exact Bool.false_ne_true

/-- A node that is no script, or cannot be combined with its templates, enters a call that is not
successful. -/
theorem enters_rejected {r : Suite σ × Bool} {script : String} {e : CallError}
    (hhistory : r.1.history = s.history ++ [(Call.rejected script e).reported])
    (hpasses : ¬ s.Passes node r.1) (hregisters : ¬ s.Registers node r.1) :
    s.Enters node r (Call.rejected script e).reported where
  history := hhistory
  goes_on hok := absurd hok (not_isSuccessful_rejected script e)
  passes hok := absurd hok (not_isSuccessful_rejected script e)
  isSuccessful hnode _ := absurd hnode hpasses
  not_registers := hregisters

/-- A script that is run enters its call. -/
theorem enters_outcome {r : Suite σ × Bool} {script : Script} {resolved : ResolvedScript}
    (hread : Script.ofJson node = .ok script) (hscript : script.isTemplate = false)
    (hresolve : script.resolve s.templates s.bindings = .ok resolved)
    (hhistory : r.1.history = s.history ++ [(s.outcome script resolved).1.reported])
    (hsent : r.1.world.sent = (s.outcome script resolved).2.sent)
    (hhost : r.1.world.host = (s.outcome script resolved).2.host)
    (hstopped : r.1.world.stopped = (s.outcome script resolved).2.stopped)
    (hends : r.2 = !s.endsRun (s.outcome script resolved).1) :
    s.Enters node r (s.outcome script resolved).1.reported := by
  have hcourse : s.caller.Ends resolved (s.noting script).world (s.outcome script resolved) :=
    s.caller.run_ends resolved (s.noting script).world
  have hiff := passes_iff hread hscript hresolve hhistory hsent hhost
  refine ⟨hhistory, ?_, ?_, ?_, ?_⟩
  · intro hok
    rw [Call.reported_isSuccessful] at hok
    rw [hends, endsRun, hok]
    simp
  · intro hok
    rw [Call.reported_isSuccessful] at hok
    exact hiff.2 (hcourse.passes hok)
  · intro hnode hclear
    rw [Call.reported_isSuccessful]
    refine hcourse.isSuccessful (hiff.1 hnode) ?_
    -- a cancelled call would have left the flag set
    cases hcancelled : (s.outcome script resolved).1.cancelled with
    | false => rfl
    | true =>
      have hset := hcourse.stopped_of_cancelled hcancelled
      cases hclear.symm.trans (hstopped.trans hset)
  · rintro ⟨hread', htemplate, -, -⟩
    cases hread.symm.trans hread'
    cases hscript.symm.trans htemplate

/-- **A node is an accepted template, or it enters a call that tells whether it passed.** -/
theorem Taken.registers_or_enters {r : Suite σ × Bool} (h : s.Taken node r) :
    (s.Registers node r.1 ∧ r.1.history = s.history ∧ r.2 = true)
      ∨ ∃ call, s.Enters node r call := by
  cases h with
  | malformed hread =>
    refine Or.inr ⟨_, enters_rejected rfl ?_ ?_⟩
    · rintro ⟨hread', -, -, -, -⟩
      cases hread.symm.trans hread'
    · rintro ⟨hread', -, -, -⟩
      cases hread.symm.trans hread'
  | unresolved hread hresolve =>
    refine Or.inr ⟨_, enters_rejected rfl ?_ ?_⟩
    · rintro ⟨hread', -, hresolve', -, -⟩
      cases hread.symm.trans hread'
      cases hresolve.symm.trans hresolve'
    · rintro ⟨hread', -, hresolve', -⟩
      cases hread.symm.trans hread'
      cases hresolve.symm.trans hresolve'
  | registered hread htemplate hresolve =>
    exact Or.inl ⟨.intro hread htemplate hresolve rfl, rfl, rfl⟩
  | @wentOn script resolved hread hscript hresolve hgoing =>
    have hgo : true = !s.endsRun (s.outcome script resolved).1 := by rw [hgoing]; rfl
    exact Or.inr ⟨_, enters_outcome hread hscript hresolve rfl rfl rfl rfl hgo⟩
  | @endedEarly script resolved hread hscript hresolve hends =>
    have hstop : false = !s.endsRun (s.outcome script resolved).1 := by rw [hends]; rfl
    exact Or.inr ⟨_, enters_outcome hread hscript hresolve rfl rfl rfl rfl hstop⟩

/-! ## Runs -/

/-- What can be told from the first node of a green run. -/
theorem Green.cons_inv {s₁ : Suite σ} {go : Bool} {rest : List Json}
    (h : Green s (node :: rest) s') (htake : s.poll.take node = (s₁, go)) :
    go = true ∧ (s.poll.Registers node s₁ ∨ s.poll.Passes node s₁) ∧ Green s₁ rest s' := by
  cases h with
  | registered _ htake' hnode hrest =>
    cases htake.symm.trans htake'
    exact ⟨rfl, Or.inl hnode, hrest⟩
  | passed _ htake' hnode hrest =>
    cases htake.symm.trans htake'
    exact ⟨rfl, Or.inr hnode, hrest⟩

/-- A call behind others. -/
theorem Enters.forall_isSuccessful_iff {r : Suite σ × Bool} {call : Call} (h : s.Enters node r call) :
    (∀ x ∈ r.1.history, x.isSuccessful = true) ↔
      (∀ x ∈ s.history, x.isSuccessful = true) ∧ call.isSuccessful = true := by
  rw [h.history, List.forall_mem_append, List.forall_mem_singleton]

/-- **Successful calls and green runs.** If the nodes of a document are taken and the flag is clear in
the end, all calls are successful exactly if those there were before are and the run is green.
Induction on the run; the suite changes with each node. -/
theorem forall_isSuccessful_iff (nodes : List Json) (s : Suite σ)
    (hclear : (s.takeAll nodes).world.stopped = false) :
    (∀ call ∈ (s.takeAll nodes).history, call.isSuccessful = true) ↔
      (∀ call ∈ s.history, call.isSuccessful = true) ∧ Green s nodes (s.takeAll nodes) := by
  have hruns := s.runs_takeAll nodes
  generalize s.turns nodes = turns, s.takeAll nodes = t at hruns hclear ⊢
  induction hruns with
  | done s => exact ⟨fun hall => ⟨hall, .nil s⟩, fun h => h.1⟩
  | stopped hstop => cases hclear.symm.trans hstop
  | @ended s t node rest _ htake =>
    have htaken := s.poll.take_taken node
    rw [htake] at htaken
    -- a call that ends the run is not successful, and an accepted template does not end it
    have hbad : ¬ ∀ call ∈ t.history, call.isSuccessful = true := by
      rcases htaken.registers_or_enters with ⟨-, -, hgo⟩ | ⟨call, henters⟩
      · exact absurd hgo Bool.false_ne_true
      · intro hall
        exact Bool.false_ne_true (henters.goes_on (henters.forall_isSuccessful_iff.1 hall).2)
    refine iff_of_false hbad ?_
    rintro ⟨-, hgreen⟩
    exact Bool.false_ne_true (hgreen.cons_inv htake).1
  | @going s s₁ t node rest turns hgoing htake hrest ih =>
    have htaken := s.poll.take_taken node
    rw [htake] at htaken
    refine (ih hclear).trans ?_
    rcases htaken.registers_or_enters with ⟨hnode, hhistory, -⟩ | ⟨call, henters⟩
    · -- an accepted template leaves the history as it was
      have hhistory : s₁.history = s.history := hhistory
      rw [hhistory]
      constructor
      · rintro ⟨hbefore, hrest⟩
        exact ⟨hbefore, .registered hgoing htake hnode hrest⟩
      · rintro ⟨hbefore, hgreen⟩
        exact ⟨hbefore, (hgreen.cons_inv htake).2.2⟩
    · have hclear₁ : s₁.world.stopped = false := by
        cases hstop : s₁.world.stopped with
        | false => rfl
        | true =>
          have hkept := takeAll_stopped rest hstop
          rw [(runs_iff.1 hrest).2] at hkept
          exact hkept.symm.trans hclear
      rw [henters.forall_isSuccessful_iff]
      constructor
      · rintro ⟨⟨hbefore, hok⟩, hrest⟩
        exact ⟨hbefore, .passed hgoing htake (henters.passes hok) hrest⟩
      · rintro ⟨hbefore, hgreen⟩
        obtain ⟨-, hnode | hnode, hrest⟩ := hgreen.cons_inv htake
        · exact absurd hnode henters.not_registers
        · exact ⟨⟨hbefore, henters.isSuccessful hnode hclear₁⟩, hrest⟩

/-! ## The verdict of a suite -/

/-- A suite is successful if every call of its history is and the flag is clear. -/
theorem isSuccessful_iff :
    s.isSuccessful = true ↔
      (∀ call ∈ s.history, call.isSuccessful = true) ∧ s.isCancelled = false := by
  have hle := List.length_filter_le Call.isSuccessful s.history
  have hnone : s.history.length - (s.history.filter Call.isSuccessful).length = 0 ↔
      ∀ call ∈ s.history, call.isSuccessful = true := by
    rw [← List.length_filter_eq_length_iff]
    omega
  unfold isSuccessful summary isCancelled
  rw [Bool.and_eq_true, Bool.not_eq_true', beq_iff_eq]
  exact and_congr hnone Iff.rfl

/-- **No false green.** After a suite without a history has run a document, it is successful exactly
if the flag is still clear and the run was green: every node of the document was taken, and is an
accepted template or a script that passed. -/
theorem execute_isSuccessful_iff (s : Suite σ) (hfresh : s.history = []) (document : Json) :
    (s.execute document).isSuccessful = true ↔
      (s.execute document).isCancelled = false
      ∧ Green s (nodes document) (s.takeAll (nodes document)) := by
  rw [isSuccessful_iff, and_comm, execute_history, execute_isCancelled]
  refine and_congr_right fun hclear => ?_
  have hflag : (s.takeAll (nodes document)).world.stopped = false := by
    cases hstop : (s.takeAll (nodes document)).world.stopped with
    | false => rfl
    | true => exact (poll_stopped hstop).symm.trans hclear
  rw [forall_isSuccessful_iff (nodes document) s hflag, hfresh]
  exact ⟨fun h => h.2, fun h => ⟨fun _ hcall => absurd hcall List.not_mem_nil, h⟩⟩

/-- A suite over the transport in memory that has done nothing yet. -/
def replaySuite : Suite Replay :=
  .create .standard Replay.services .empty ⟨[], []⟩ .standard

/-- A template with a check, and a script that inherits it and has one of its own. -/
def inheritingDocument : Json :=
  let accepted : Json := .object [("status", .number (.integer 200 (by decide)))]
  .array [
    .object [("name", .string "base.template"), ("assert", .array [accepted])],
    .object [("name", .string "ping"), ("template", .string "base.template"),
      ("GET", .string "/ping"), ("assert", .array [accepted])]]

/-- Both checks are run and pass, so the run is green. -/
theorem green_inheriting :
    replaySuite.history = []
      ∧ Green replaySuite (nodes inheritingDocument)
          (replaySuite.takeAll (nodes inheritingDocument)) := by
  have hfresh : replaySuite.history = [] := rfl
  have hok : (replaySuite.execute inheritingDocument).isSuccessful = true := by decide +kernel
  exact ⟨hfresh, ((execute_isSuccessful_iff replaySuite hfresh inheritingDocument).1 hok).2⟩

end RestSuite.Suite
