import RestSuite.Proofs.Call.Success

/-!
# How calls conclude

The state of a call, its error, its mark of a stop and its ledger are set one by one on every way
out. Whoever looks at one of them takes it to stand for the others.

* **`Call.Concluded`** — the records in which these fields agree: the call came to its goal, was
  cancelled, or failed, and then it broke off with an error or was refused by a precondition.
* **`Caller.run_concluded`** — every call that is run concludes in one of these ways.
* **`Call.Concluded.isSuccessful_iff`** — so a call is successful exactly if it came to its goal and
  nothing failed.
-/

namespace RestSuite

/-! ## Records that agree with themselves -/

/-- The record of a call that is over. The goal is the state of a call that came to its end, and the
entry of a precondition is recognized by a property. -/
inductive Call.Concluded (goal : CallState) (ofPrecondition : LedgerEntry → Prop) (call : Call) :
    Prop where
  /-- All checks gave their verdict. -/
  | achieved (hstate : call.state = goal) (herror : call.error = none)
      (hcancelled : call.cancelled = false) (hsent : call.sent = true)
      (hresponse : call.response.isSome = true) (hskipped : call.skipped = [])
  /-- A stop was seen before anything failed. -/
  | cancelled (hstate : call.state = .cancelled) (herror : call.error = none)
      (hcancelled : call.cancelled = true) (hfailed : call.failed = [])
  /-- An error ended the call. -/
  | broken (hstate : call.state = .failed) (herror : call.error.isSome = true)
      (hcancelled : call.cancelled = false)
  /-- A precondition failed, and nothing was sent. -/
  | refused {entry : LedgerEntry} (hstate : call.state = .failed) (herror : call.error = none)
      (hcancelled : call.cancelled = false) (hsent : call.sent = false)
      (hfailed : call.failed = [entry]) (hentry : ofPrecondition entry)

namespace Call.Concluded

variable {goal : CallState} {P Q : LedgerEntry → Prop} {call : Call}

/-- **The state and the failed entries tell whether a call is successful.** -/
theorem isSuccessful_iff (h : call.Concluded goal P) (hcancelled : goal ≠ .cancelled)
    (hfailed : goal ≠ .failed) :
    call.isSuccessful = true ↔ call.state = goal ∧ call.failed = [] := by
  rw [Call.isSuccessful_iff]
  cases h with
  | achieved hstate herror hcancelled _ _ _ =>
    exact ⟨fun h => ⟨hstate, h.2.1⟩, fun h => ⟨herror, h.2, hcancelled⟩⟩
  | cancelled hstate _ hmark _ =>
    constructor
    · rintro ⟨-, -, hclear⟩
      cases hclear.symm.trans hmark
    · rintro ⟨hgoal, -⟩
      exact absurd (hgoal.symm.trans hstate) hcancelled
  | broken hstate herror _ =>
    constructor
    · rintro ⟨hnone, -, -⟩
      rw [hnone] at herror
      cases herror
    · rintro ⟨hgoal, -⟩
      exact absurd (hgoal.symm.trans hstate) hfailed
  | refused hstate _ _ _ hone _ =>
    -- no error gives it away, but the entry of the precondition does
    constructor
    · rintro ⟨-, hnone, -⟩
      cases hnone.symm.trans hone
    · rintro ⟨hgoal, -⟩
      exact absurd (hgoal.symm.trans hstate) hfailed

theorem imp (h : call.Concluded goal P) (hPQ : ∀ entry, P entry → Q entry) :
    call.Concluded goal Q := by
  cases h with
  | achieved hstate herror hcancelled hsent hresponse hskipped =>
    exact .achieved hstate herror hcancelled hsent hresponse hskipped
  | cancelled hstate herror hcancelled hfailed => exact .cancelled hstate herror hcancelled hfailed
  | broken hstate herror hcancelled => exact .broken hstate herror hcancelled
  | refused hstate herror hcancelled hsent hfailed hentry =>
    exact .refused hstate herror hcancelled hsent hfailed (hPQ _ hentry)

end Call.Concluded

/-! ## Calls that are run -/

namespace Caller

variable {σ : Type} {c : Caller σ} {s : ResolvedScript} {w : World σ} {r : Call × World σ}

/-- Nothing failed among rules that are skipped. -/
theorem entriesOf_failed_skippedEntries (rules : List Rule) (reason : String) :
    entriesOf .failed (skippedEntries rules reason) = [] :=
  (allAre_skippedEntries rules reason).entriesOf_other (by decide)

/-- Nothing failed where the preconditions passed and the rest is skipped. -/
theorem entriesOf_failed_eq_nil {entries : List LedgerEntry} (hpassed : AllAre .passed entries)
    (rules : List Rule) (reason : String) :
    entriesOf .failed (entries ++ skippedEntries rules reason) = [] := by
  rw [entriesOf_append, hpassed.entriesOf_other (by decide), entriesOf_failed_skippedEntries,
    List.append_nil]

/-- A precondition that refuses a call is the only one that failed. -/
theorem Checked.entriesOf_failed {request : Option Request} {response : Option Response}
    {rules : List Rule} {entries : List LedgerEntry} {w' : World σ}
    (h : c.Checked .precondition s request response w rules .refused entries w') :
    ∃ entry, entriesOf .failed entries = [entry] ∧ ∃ rule ∈ rules, entry.IsAbout rule := by
  cases h with
  | @refused before after rule passed message _ _ _ hrules hran _ =>
    have hbefore : entriesOf .failed passed = [] := hran.allAre_passed.entriesOf_other (by decide)
    refine ⟨rule.entry .failed (some message), ?_, rule, ?_, rule.isAbout_entry _ _⟩
    · rw [entriesOf_append, hbefore, List.nil_append]
      show rule.entry .failed (some message) :: entriesOf .failed (skippedEntries after _) = _
      rw [entriesOf_failed_skippedEntries]
    · rw [hrules]
      exact List.mem_append_right _ List.mem_cons_self

theorem Ends.concluded (h : c.Ends s w r) :
    r.1.Concluded .asserted fun entry => ∃ rule ∈ s.layer.preconditions, entry.IsAbout rule := by
  cases h with
  | misconfigured _ => exact .broken rfl rfl rfl
  | stoppedAtStart _ _ =>
    exact .cancelled rfl rfl rfl (entriesOf_failed_skippedEntries _ _)
  | unbuilt _ _ _ => exact .broken rfl rfl rfl
  | @refused _ entries _ _ _ hchecked =>
    obtain ⟨entry, hfailed, hrule⟩ := hchecked.entriesOf_failed
    have hone : entriesOf .failed
        (entries ++ skippedEntries s.layer.assertions "precondition failed") = [entry] := by
      rw [entriesOf_append, hfailed, entriesOf_failed_skippedEntries, List.append_nil]
    exact .refused rfl rfl rfl rfl hone hrule
  | preconditionHalted _ _ => exact .broken rfl rfl rfl
  | stoppedBeforeSending _ hran _ =>
    exact .cancelled rfl rfl rfl (entriesOf_failed_eq_nil hran.allAre_passed _ _)
  | unanswered _ _ => exact .broken rfl rfl rfl
  | stoppedOnReceipt hreceives _ =>
    obtain ⟨_, _, hran⟩ := hreceives.ran
    exact .cancelled rfl rfl rfl (entriesOf_failed_eq_nil hran.allAre_passed _ _)
  | extractionHalted _ _ _ => exact .broken rfl rfl rfl
  | stoppedBeforeAsserting hextracts _ =>
    obtain ⟨_, _, hran⟩ := hextracts.ran
    exact .cancelled rfl rfl rfl (entriesOf_failed_eq_nil hran.allAre_passed _ _)
  | assertionHalted _ _ => exact .broken rfl rfl rfl
  | asserted hasserts hran =>
    have hskipped := entriesOf_skipped_eq_nil hasserts.allAre_passed hran.ne_skipped
    exact .achieved rfl rfl rfl rfl rfl hskipped

/-- **Every call that is run concludes.** -/
theorem run_concluded (c : Caller σ) (s : ResolvedScript) (w : World σ) :
    (c.run s w).1.Concluded .asserted
      fun entry => ∃ rule ∈ s.layer.preconditions, entry.IsAbout rule :=
  (c.run_ends s w).concluded

end Caller

end RestSuite
