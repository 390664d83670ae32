import RestSuite.Proofs.Call.Conclusion
import RestSuite.Proofs.Script.Staged
import RestSuite.Proofs.Suite.Reachable

/-!
# How the calls of a history concluded

A call that is entered into a history has concluded, and what was asserted is reported. Nodes that
are turned away enter calls that broke off.

* **`Suite.calls_concluded`** — how calls conclude, when they are run and in every history.
-/

namespace RestSuite

/-- What came to its goal is entered as reported, and all else stays as it is. -/
theorem Call.Concluded.reported {P : LedgerEntry → Prop} {call : Call}
    (h : call.Concluded .asserted P) : call.reported.Concluded .reported P := by
  have hkept : ∀ state, call.state = state → state ≠ .asserted → call.reported = call := by
    rintro _ rfl hother
    exact if_neg hother
  cases h with
  | achieved hstate herror hcancelled hsent hresponse hskipped =>
    unfold Call.reported
    rw [if_pos hstate]
    exact .achieved rfl herror hcancelled hsent hresponse hskipped
  | cancelled hstate herror hcancelled hfailed =>
    rw [hkept _ hstate nofun]
    exact .cancelled hstate herror hcancelled hfailed
  | broken hstate herror hcancelled =>
    rw [hkept _ hstate nofun]
    exact .broken hstate herror hcancelled
  | refused hstate herror hcancelled hsent hfailed hentry =>
    rw [hkept _ hstate nofun]
    exact .refused hstate herror hcancelled hsent hfailed hentry

/-- The entry stands for a precondition. -/
def LedgerEntry.IsPrecondition (e : LedgerEntry) : Prop :=
  e.stage = .precondition

namespace Suite

variable {σ : Type} {s : Suite σ} {node : Json} {r : Suite σ × Bool}

/-- The call of a resolved script concludes, and the entry that a refused call holds is that of a
precondition. -/
theorem outcome_concluded {script : Script} {resolved : ResolvedScript}
    (hresolve : script.resolve s.templates s.bindings = .ok resolved) :
    (s.outcome script resolved).1.reported.Concluded .reported LedgerEntry.IsPrecondition := by
  have hconcluded : (s.outcome script resolved).1.Concluded .asserted _ :=
    s.caller.run_concluded resolved (s.noting script).world
  refine hconcluded.reported.imp ?_
  rintro entry ⟨rule, hrule, habout⟩
  exact habout.stage.trans ((Script.resolve_staged hresolve).preconditions rule hrule)

/-- **Every call that a node enters has concluded.** -/
theorem Taken.concluded (h : s.Taken node r)
    (hbefore : ∀ call ∈ s.history, call.Concluded .reported LedgerEntry.IsPrecondition) :
    ∀ call ∈ r.1.history, call.Concluded .reported LedgerEntry.IsPrecondition := by
  have hentered : ∀ call : Call, call.Concluded .reported LedgerEntry.IsPrecondition →
      r.1.history = s.history ++ [call] →
      ∀ call ∈ r.1.history, call.Concluded .reported LedgerEntry.IsPrecondition := by
    intro call hcall hhistory
    rw [hhistory]
    exact List.forall_mem_append.2 ⟨hbefore, List.forall_mem_singleton.2 hcall⟩
  cases h with
  | malformed _ => exact hentered _ (.broken rfl rfl rfl) rfl
  | unresolved _ _ => exact hentered _ (.broken rfl rfl rfl) rfl
  | registered _ _ _ => exact hbefore
  | wentOn _ _ hresolve _ => exact hentered _ (outcome_concluded hresolve) rfl
  | endedEarly _ _ hresolve _ => exact hentered _ (outcome_concluded hresolve) rfl

/-- **How calls conclude.** A call that is run comes to its assertions, is cancelled, or fails, and
then it broke off with an error or was refused by a precondition; the rest of its record says the
same. So does every call in the history of a suite, where what was asserted is reported. In both
cases, success is to have come to the end with nothing failed. A node that is turned away enters a
call that failed with an error and was not sent. -/
theorem calls_concluded :
    (∀ (c : Caller σ) (script : ResolvedScript) (w : World σ),
      (c.run script w).1.Concluded .asserted
        (fun entry => ∃ rule ∈ script.layer.preconditions, entry.IsAbout rule)
      ∧ ((c.run script w).1.isSuccessful = true ↔
          (c.run script w).1.state = .asserted ∧ (c.run script w).1.failed = []))
    ∧ (∀ s : Suite σ, s.Reachable → ∀ call ∈ s.history,
      call.Concluded .reported LedgerEntry.IsPrecondition
      ∧ (call.isSuccessful = true ↔ call.state = .reported ∧ call.failed = []))
    ∧ ∀ (s : Suite σ) (node : Json), s.Rejects node →
      ∃ call, (s.take node).1.history = s.history ++ [call] ∧ call.state = .failed
        ∧ call.error.isSome = true ∧ call.sent = false := by
  refine ⟨?_, ?_, ?_⟩
  · intro c script w
    have hconcluded := c.run_concluded script w
    exact ⟨hconcluded, hconcluded.isSuccessful_iff nofun nofun⟩
  · intro s hreachable call hcall
    have hconcluded := hreachable.forall_history (P := fun call => call.Concluded .reported _)
      (fun t node => (t.take_taken node).concluded) call hcall
    exact ⟨hconcluded, hconcluded.isSuccessful_iff nofun nofun⟩
  · intro s node hrejects
    obtain ⟨script, e, hhistory⟩ := hrejects.take_history
    exact ⟨_, hhistory, rfl, rfl, rfl⟩

end Suite

end RestSuite
