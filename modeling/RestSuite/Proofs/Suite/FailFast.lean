import RestSuite.Proofs.Suite.Course

/-!
# Runs that are to stop at the first failure

With the setting `failFast` a run ends behind the first call that was run and did not succeed. A node
that is turned away enters a call that did not succeed either, but this call is not looked at: the run
goes on behind it.

* **`Suite.StopsAtFailure`** — what one expects of such a run: nothing is done behind the first call
  that is not successful, and the run does not count as stopped because of that.
* **`Suite.execute_stopsAtFailure_iff`** — this holds of a run exactly if no node is taken behind one
  that is turned away.
* **`Suite.not_stopsAtFailure_dangling`** — so it does not hold of every run.
-/

namespace RestSuite.Suite

variable {σ : Type} {s t u : Suite σ} {node : Json} {r : Suite σ × Bool} {before : List Json}

/-- The run of a document does nothing behind the first call that is not successful. -/
structure StopsAtFailure (s : Suite σ) (document : Json) : Prop where
  /-- All calls that the run adds to the history are successful, but for the last. -/
  calls : ∀ call ∈ (newCalls s (s.execute document)).dropLast, call.isSuccessful = true
  /-- No node is taken behind one whose call is not successful. -/
  nodes : s.HoldsBefore (nodes document) fun call => call.isSuccessful = true
  /-- Where a call ended the run, the flag is as this call left it, but for the last look at it. -/
  unmarked : ∀ before node after t u, Suite.nodes document = before ++ node :: after →
    s.Reaches before t → t.take node = (u, false) →
    ∃ script resolved, Script.ofJson node = .ok script
      ∧ script.resolve t.templates t.bindings = .ok resolved
      ∧ (s.execute document).isCancelled =
          ((t.outcome script resolved).2.poll t.services).stopped

/-! ## Single nodes -/

theorem Taken.settings (h : s.Taken node r) : r.1.settings = s.settings := by
  cases h <;> rfl

theorem Proceeds.settings (h : s.Proceeds before t) : t.settings = s.settings := by
  induction h with
  | nil s => rfl
  | @cons s s₁ s₂ node rest _ htake _ ih =>
    have htaken := s.poll.take_taken node
    rw [htake] at htaken
    exact ih.trans htaken.settings

theorem Reaches.settings (h : s.Reaches before t) : t.settings = s.settings := by
  obtain ⟨hproceeds, -⟩ := h
  exact hproceeds.settings

/-- A node that is turned away enters a call that is not successful. -/
theorem Rejects.history (h : s.Rejects node) :
    ∃ call, (s.take node).1.history = s.history ++ [call] ∧ call.isSuccessful = false := by
  obtain ⟨script, e, hhistory⟩ := h.take_history
  exact ⟨_, hhistory, rfl⟩

/-- A call that is run and behind which the run goes on is successful, or it was cancelled and has left
the flag set. -/
theorem Taken.isSuccessful (h : s.Taken node r) (hfast : s.settings.failFast = true)
    (haccepts : ¬ s.Rejects node) (hgo : r.2 = true) (hclear : r.1.world.stopped = false)
    {call : Call} (hhistory : r.1.history = s.history ++ [call]) : call.isSuccessful = true := by
  cases h.entered hhistory with
  | rejected hrejects _ => exact absurd hrejects haccepts
  | @performed script resolved _ _ hcall hstopped hgoes =>
    have hcancelled : (s.outcome script resolved).1.cancelled = false :=
      outcome_cancelled (hstopped.symm.trans hclear)
    rw [hgo, endsRun, hfast, hcancelled] at hgoes
    rw [hcall, Call.reported_isSuccessful]
    simpa using hgoes

/-- The flag where a call ended the run. -/
theorem Taken.stopped_of_ended (h : s.Taken node r) (hended : r.2 = false) :
    ∃ script resolved, Script.ofJson node = .ok script
      ∧ script.resolve s.templates s.bindings = .ok resolved
      ∧ r.1.poll.world.stopped = ((s.outcome script resolved).2.poll s.services).stopped := by
  cases h with
  | endedEarly hread _ hresolve _ => exact ⟨_, _, hread, hresolve, rfl⟩
  | _ => cases hended

/-! ## Runs -/

/-- **Where a run stops that is to stop at the first failure.** It stops there exactly if no node is
taken behind one that is turned away: all other ways to fail are noticed. -/
theorem execute_stopsAtFailure_iff (s : Suite σ) (hfast : s.settings.failFast = true)
    (document : Json) :
    s.StopsAtFailure document ↔
      ∀ before node next after t u, nodes document = before ++ node :: next :: after →
        s.Reaches before t → s.Reaches (before ++ [node]) u → ¬ t.Rejects node := by
  constructor
  · intro hstops before node next after t u hnodes hreaches hnext hrejects
    obtain ⟨call, hhistory, hbad⟩ := hrejects.history
    have hok := hstops.nodes before node next after t u call hnodes hreaches hnext hhistory
    exact Bool.false_ne_true (hbad.symm.trans hok)
  · intro haccepts
    have hnodes : s.HoldsBefore (nodes document) fun call => call.isSuccessful = true := by
      intro before node next after t u call hnodes hreaches hnext hhistory
      have haccepted := haccepts before node next after t u hnodes hreaches hnext
      have hsettings := hreaches.settings
      obtain ⟨htake, -, hgoing⟩ := hreaches.of_concat hnext
      have hgo : (t.take node).2 = true := congrArg Prod.snd htake
      -- the flag was clear when the next node was taken, so it was clear behind this one
      have hclear : (t.take node).1.world.stopped = false := clear_of_poll hgoing
      exact (t.take_taken node).isSuccessful (hsettings ▸ hfast) haccepted hgo hclear hhistory
    refine ⟨s.execute_newCalls document hnodes, hnodes, ?_⟩
    intro before node after t u hdocument hreaches htake
    have htaken := t.take_taken node
    rw [htake] at htaken
    obtain ⟨script, resolved, hread, hresolve, hflag⟩ := htaken.stopped_of_ended rfl
    refine ⟨script, resolved, hread, hresolve, ?_⟩
    rw [execute_isCancelled, hdocument, hreaches.takeAll_eq_of_ended htake after]
    exact hflag

/-! ## A run that stops and one that does not -/

/-- A suite over the transport in memory that is to stop at the first failure. -/
def fastSuite : Suite Replay :=
  .create .standard Replay.services .empty ⟨[], []⟩ { Settings.standard with failFast := true }

/-- A script that asks for a status other than the one it gets, and a script behind it. -/
def disappointedDocument : Json :=
  let refused : Json := .object [("status", .number (.integer 404 (by decide)))]
  .array [
    .object [("name", .string "first"), ("GET", .string "/a"), ("assert", .array [refused])],
    .object [("name", .string "second"), ("GET", .string "/b")]]

/-- A script below a template that there is not, and a script behind it. -/
def danglingDocument : Json :=
  .array [
    .object [("name", .string "missing"), ("template", .string "nope"), ("GET", .string "/a")],
    .object [("name", .string "next"), ("GET", .string "/b")]]

/-- Nothing is turned away here, so the run stops behind the first script. -/
theorem stopsAtFailure_disappointed :
    fastSuite.settings.failFast = true ∧ fastSuite.StopsAtFailure disappointedDocument := by
  refine ⟨rfl, (execute_stopsAtFailure_iff fastSuite rfl disappointedDocument).2 ?_⟩
  intro before node next after t u hnodes hreaches _
  -- of two nodes, only the first has one behind it
  have hlength : 2 = before.length + (after.length + 2) :=
    (congrArg List.length hnodes).trans List.length_append
  obtain rfl : before = [] := List.length_eq_zero_iff.1 (by omega)
  obtain ⟨hnode, -⟩ := List.cons.inj hnodes
  obtain rfl := hreaches.unique (.intro (.nil fastSuite) rfl)
  rw [rejects_iff, ← hnode]
  decide +kernel

/-- **A run does not stop at a script that cannot be combined with its templates.** The script is
entered as failed, and yet the next one is run. -/
theorem not_stopsAtFailure_dangling : ¬ fastSuite.StopsAtFailure danglingDocument := by
  intro hstops
  have hcalls : ((newCalls fastSuite (fastSuite.execute danglingDocument)).dropLast.all
      Call.isSuccessful) = false := by decide +kernel
  rw [List.all_eq_true.2 hstops.calls] at hcalls
  cases hcalls

end RestSuite.Suite
