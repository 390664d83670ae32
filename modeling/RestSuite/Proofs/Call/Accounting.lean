import RestSuite.Proofs.Call.Course
import RestSuite.Proofs.Script.Staged

/-!
# Every check is accounted for

However a call ends, its ledger holds one entry for each precondition and each assertion, in their
order, and how the outcomes follow each other says how far the call came.

* **`Caller.run_accounts`** — the three lists of a call are one list of entries, sorted by outcome.
* **`Caller.run_outcomes`** — which preconditions and which assertions were skipped, and why.

Both rest on `Ends.ledgers`, which brings the twelve ways to end a call down to three: nothing was
run, the preconditions were run, or the assertions were run.
-/

namespace RestSuite

/-! ## The shapes of the outcomes -/

/-- The preconditions all passed, or all were skipped, or they passed up to one that failed, behind
which all were skipped. -/
inductive PreconditionOutcomes : List LedgerEntry → Prop where
  | passed {entries : List LedgerEntry} (hall : AllAre .passed entries) :
      PreconditionOutcomes entries
  | skipped {entries : List LedgerEntry} (hall : AllAre .skipped entries) :
      PreconditionOutcomes entries
  | failed {before after : List LedgerEntry} {e : LedgerEntry}
      (hbefore : AllAre .passed before) (hfailed : e.outcome = .failed)
      (hafter : AllAre .skipped after) :
      PreconditionOutcomes (before ++ e :: after)

namespace Caller

variable {σ : Type} {c : Caller σ} {s : ResolvedScript} {w : World σ}

/-- Something kept the assertions of a call from being run: a precondition that did not pass, a
request that was not built, not sent or not answered, an extractor that ended the call, or a stop
that was seen. -/
inductive Hindered (c : Caller σ) (s : ResolvedScript) (w : World σ) (call : Call)
    (preconditions : List LedgerEntry) : Prop where
  | notPassed (h : ¬ AllAre .passed preconditions)
  | notBuilt (h : call.request = none)
  | notSent (h : call.sent = false)
  | notAnswered {e : TransportError} (h : call.error = some (.transport e))
  | notExtracted (h : c.ExtractionHalts s w)
  | cancelled (h : call.cancelled = true)

/-- The outcomes of assertions that were run. No failed verdict keeps a later assertion from running;
only a rule that gives no verdict does. -/
inductive AssertionOutcomes (c : Caller σ) (s : ResolvedScript) (w : World σ) (call : Call)
    (preconditions : List LedgerEntry) : List LedgerEntry → Prop where
  /-- Every assertion gave its verdict. -/
  | verdicts {entries : List LedgerEntry} (herror : call.error = none)
      (hall : ∀ e ∈ entries, e.outcome ≠ .skipped) :
      AssertionOutcomes c s w call preconditions entries
  /-- The rules before one gave their verdicts, this one raised an error, which the call holds, in
  the world that the others left, and the rules behind it were skipped. -/
  | halted {request : Request} {response : Response} {messages : List String} {w₁ w₂ w₃ : World σ}
      {before after : List Rule} {rule : Rule} {entries skipped : List LedgerEntry} {e : CallError}
      (hasserts : c.Asserts s w request response preconditions messages w₁)
      (hrules : s.layer.assertions = before ++ rule :: after)
      (hran : c.Ran .assertion s (some request) (some response) w₁ before entries w₂)
      (hcheck : c.check .assertion rule (c.scene s (some request) (some response) w₂) w₂ =
        (.halted e, w₃))
      (hkind : (∃ x, e = .binding x) ∨ (∃ x, e = .configuration x) ∨ (∃ x, e = .evaluation x))
      (hentries : ∀ e ∈ entries, e.outcome ≠ .skipped)
      (hskipped : AllAre .skipped skipped)
      (herror : call.error = some e) :
      AssertionOutcomes c s w call preconditions
        (entries ++ rule.entry .failed (some e.message) :: skipped)

/-! ## Three kinds of ledgers -/

/-- The error that the end of a stage leaves in the call. -/
def errorOf : StageEnd → Option CallError
  | .halted e => some e
  | _ => none

/-- The entries of a call for the preconditions and for the assertions. -/
inductive Ledgers (c : Caller σ) (s : ResolvedScript) (w : World σ) (call : Call) :
    List LedgerEntry → List LedgerEntry → Prop where
  /-- No rule was run. -/
  | untouched (reason : String) (hrequest : call.request = none)
      (hledger : call.HasLedger (skippedEntries s.layer.preconditions reason ++
        skippedEntries s.layer.assertions reason)) :
      Ledgers c s w call (skippedEntries s.layer.preconditions reason)
        (skippedEntries s.layer.assertions reason)
  /-- The preconditions were run, the assertions were not. -/
  | unasserted (reason : String) {request : Request} {fin : StageEnd} {entries : List LedgerEntry}
      {built w₁ : World σ}
      (hchecked : c.Checked .precondition s (some request) none built s.layer.preconditions fin
        entries w₁)
      (hhindered : c.Hindered s w call entries)
      (hledger : call.HasLedger (entries ++ skippedEntries s.layer.assertions reason)) :
      Ledgers c s w call entries (skippedEntries s.layer.assertions reason)
  /-- The assertions were run. -/
  | asserted {request : Request} {response : Response} {messages : List String} {fin : StageEnd}
      {entries more : List LedgerEntry} {w₁ w₂ : World σ}
      (hasserts : c.Asserts s w request response entries messages w₁)
      (hchecked : c.Checked .assertion s (some request) (some response) w₁ s.layer.assertions fin
        more w₂)
      (hrequest : call.request = some request) (hsent : call.sent = true)
      (hcancelled : call.cancelled = false) (herror : call.error = errorOf fin)
      (hledger : call.HasLedger (entries ++ more)) :
      Ledgers c s w call entries more

theorem Receives.ran {request : Request} {response : Response} {entries : List LedgerEntry}
    {w₁ : World σ} (h : c.Receives s w request response entries w₁) :
    ∃ built w₂, c.Ran .precondition s (some request) none built s.layer.preconditions entries
      w₂ := by
  obtain ⟨⟨_, hran, _⟩, _⟩ := h
  exact ⟨_, _, hran⟩

theorem Extracts.ran {request : Request} {response : Response} {entries : List LedgerEntry}
    {messages : List String} {w₁ : World σ}
    (h : c.Extracts s w request response entries messages w₁) :
    ∃ built w₂, c.Ran .precondition s (some request) none built s.layer.preconditions entries
      w₂ := by
  obtain ⟨hreceives, _, _⟩ := h
  exact hreceives.ran

theorem Asserts.ran {request : Request} {response : Response} {entries : List LedgerEntry}
    {messages : List String} {w₁ : World σ}
    (h : c.Asserts s w request response entries messages w₁) :
    ∃ built w₂, c.Ran .precondition s (some request) none built s.layer.preconditions entries
      w₂ := by
  obtain ⟨hextracts, _⟩ := h
  exact hextracts.ran

theorem Asserts.allAre_passed {request : Request} {response : Response}
    {entries : List LedgerEntry} {messages : List String} {w₁ : World σ}
    (h : c.Asserts s w request response entries messages w₁) : AllAre .passed entries := by
  obtain ⟨_, _, hran⟩ := h.ran
  exact hran.allAre_passed

/-- A call that ends before its request stands. -/
theorem ledgers_untouched (call : Call) (reason : String) (hrequest : call.request = none) :
    ∃ pre post, c.Ledgers s w (call.withLedger
      (skippedEntries (s.layer.preconditions ++ s.layer.assertions) reason)) pre post := by
  rw [skippedEntries_append]
  exact ⟨_, _, .untouched reason hrequest (call.hasLedger_withLedger _)⟩

/-- A call that ends when its preconditions are over. -/
theorem ledgers_unasserted (call : Call) (reason : String) {request : Request} {fin : StageEnd}
    {entries : List LedgerEntry} {built w₁ : World σ}
    (hchecked : c.Checked .precondition s (some request) none built s.layer.preconditions fin
      entries w₁)
    (hhindered : c.Hindered s w
      (call.withLedger (entries ++ skippedEntries s.layer.assertions reason)) entries) :
    ∃ pre post, c.Ledgers s w
      (call.withLedger (entries ++ skippedEntries s.layer.assertions reason)) pre post :=
  ⟨_, _, .unasserted reason hchecked hhindered (call.hasLedger_withLedger _)⟩

theorem Ends.ledgers {r : Call × World σ} (h : c.Ends s w r) :
    ∃ pre post, c.Ledgers s w r.1 pre post := by
  cases h with
  | misconfigured => exact ledgers_untouched _ _ rfl
  | stoppedAtStart => exact ledgers_untouched _ _ rfl
  | unbuilt => exact ledgers_untouched _ _ rfl
  | refused _ hchecked => exact ledgers_unasserted _ _ hchecked (.notSent rfl)
  | preconditionHalted _ hchecked => exact ledgers_unasserted _ _ hchecked (.notSent rfl)
  | stoppedBeforeSending _ hran => exact ledgers_unasserted _ _ (.completed hran) (.notSent rfl)
  | unanswered hsends =>
    obtain ⟨_, hran, _⟩ := hsends
    exact ledgers_unasserted _ _ (.completed hran) (.notAnswered rfl)
  | stoppedOnReceipt hreceives =>
    obtain ⟨_, _, hran⟩ := hreceives.ran
    exact ledgers_unasserted _ _ (.completed hran) (.cancelled rfl)
  | extractionHalted hreceives hgoing htake =>
    obtain ⟨_, _, hran⟩ := hreceives.ran
    exact ledgers_unasserted _ _ (.completed hran) (.notExtracted ⟨hreceives, hgoing, htake⟩)
  | stoppedBeforeAsserting hextracts =>
    obtain ⟨_, _, hran⟩ := hextracts.ran
    exact ledgers_unasserted _ _ (.completed hran) (.cancelled rfl)
  | assertionHalted hasserts hchecked =>
    exact ⟨_, _, .asserted hasserts hchecked rfl rfl rfl rfl (Call.hasLedger_withLedger _ _)⟩
  | asserted hasserts hran =>
    exact ⟨_, _, .asserted hasserts (.completed hran) rfl rfl rfl rfl
      (Call.hasLedger_withLedger _ _)⟩

/-! ## What the three kinds have in common -/

variable {call : Call} {pre post : List LedgerEntry}

theorem Ledgers.hasLedger (h : c.Ledgers s w call pre post) : call.HasLedger (pre ++ post) := by
  cases h with
  | untouched _ _ hledger => exact hledger
  | unasserted _ _ _ hledger => exact hledger
  | asserted _ _ _ _ _ _ hledger => exact hledger

theorem Ledgers.records (h : c.Ledgers s w call pre post) :
    Records pre s.layer.preconditions ∧ Records post s.layer.assertions := by
  cases h with
  | untouched => exact ⟨records_skippedEntries _ _, records_skippedEntries _ _⟩
  | unasserted _ hchecked _ _ => exact ⟨hchecked.records, records_skippedEntries _ _⟩
  | asserted hasserts hchecked _ _ _ _ _ =>
    obtain ⟨_, _, hran⟩ := hasserts.ran
    exact ⟨hran.records, hchecked.records⟩

theorem Ledgers.explained (h : c.Ledgers s w call pre post) :
    ∀ e ∈ pre ++ post, e.Explained := by
  rw [List.forall_mem_append]
  cases h with
  | untouched => exact ⟨explained_skippedEntries _ _, explained_skippedEntries _ _⟩
  | unasserted _ hchecked _ _ => exact ⟨hchecked.explained, explained_skippedEntries _ _⟩
  | asserted hasserts hchecked _ _ _ _ _ =>
    obtain ⟨_, _, hran⟩ := hasserts.ran
    exact ⟨hran.explained, hchecked.explained⟩

theorem Ledgers.preconditionOutcomes (h : c.Ledgers s w call pre post) :
    PreconditionOutcomes pre := by
  cases h with
  | untouched => exact .skipped (allAre_skippedEntries _ _)
  | unasserted _ hchecked _ _ =>
    rcases hchecked.preconditions with hall | ⟨_, _, _, rfl, hbefore, hfailed, hafter⟩
    · exact .passed hall
    · exact .failed hbefore hfailed hafter
  | asserted hasserts _ _ _ _ _ _ => exact .passed hasserts.allAre_passed

/-- Where the assertions were run, nothing hindered them. -/
theorem Asserts.not_hindered {request : Request} {response : Response} {messages : List String}
    {fin : StageEnd} {w₁ w₂ : World σ} (hasserts : c.Asserts s w request response pre messages w₁)
    (hchecked : c.Checked .assertion s (some request) (some response) w₁ s.layer.assertions fin
      post w₂)
    (hrequest : call.request = some request) (hsent : call.sent = true)
    (hcancelled : call.cancelled = false) (herror : call.error = errorOf fin) :
    ¬ c.Hindered s w call pre := by
  intro h
  cases h with
  | notPassed h => exact h hasserts.allAre_passed
  | notBuilt h => cases hrequest.symm.trans h
  | notSent h => cases hsent.symm.trans h
  | notExtracted h =>
    obtain ⟨hextracts, _⟩ := hasserts
    exact hextracts.not_extractionHalts h
  | cancelled h => cases hcancelled.symm.trans h
  | notAnswered h =>
    -- what an assertion raises is no error of the transport
    cases hchecked with
    | completed _ => cases herror.symm.trans h
    | refused hstage _ _ _ => cases hstage
    | halted _ _ hcheck =>
      cases herror.symm.trans h
      rcases kind_of_check_halted hcheck with ⟨_, hkind⟩ | ⟨_, hkind⟩ | ⟨_, hkind⟩ <;> cases hkind

theorem Ledgers.allAre_skipped (h : c.Ledgers s w call pre post)
    (hhindered : c.Hindered s w call pre) : AllAre .skipped post := by
  cases h with
  | untouched => exact allAre_skippedEntries _ _
  | unasserted => exact allAre_skippedEntries _ _
  | asserted hasserts hchecked hrequest hsent hcancelled herror _ =>
    exact absurd hhindered
      (hasserts.not_hindered hchecked hrequest hsent hcancelled herror)

theorem Ledgers.assertionOutcomes (h : c.Ledgers s w call pre post)
    (hfree : ¬ c.Hindered s w call pre) : c.AssertionOutcomes s w call pre post := by
  cases h with
  | untouched _ hrequest _ => exact absurd (.notBuilt hrequest) hfree
  | unasserted _ _ hhindered _ => exact absurd hhindered hfree
  | asserted hasserts hchecked _ _ _ herror _ =>
    cases hchecked with
    | completed hran => exact .verdicts herror hran.ne_skipped
    | refused hstage _ _ _ => cases hstage
    | halted hrules hran hcheck =>
      exact .halted hasserts hrules hran hcheck (kind_of_check_halted hcheck) hran.ne_skipped
        (allAre_skippedEntries _ _) herror

/-! ## The laws of the ledger -/

/-- **Every check is in the ledger exactly once.** The passed, failed and skipped entries of a call
are one list of entries, sorted by outcome, that holds one entry for each precondition and each
assertion, in their order. An entry has a message unless its rule passed, and no extractor of a
script is ever among them. -/
theorem run_accounts (c : Caller σ) (s : ResolvedScript) (w : World σ) :
    ∃ entries : List LedgerEntry,
      Records entries (s.layer.preconditions ++ s.layer.assertions) ∧
      (c.run s w).1.HasLedger entries ∧
      (∀ e ∈ entries, e.Explained) ∧
      (∀ (script : Script) (templates : Templates) (bindings : Bindings),
        script.resolve templates bindings = .ok s → ∀ e ∈ entries, e.stage ≠ .extraction) := by
  obtain ⟨pre, post, h⟩ := (c.run_ends s w).ledgers
  have hrecords := h.records.1.append h.records.2
  refine ⟨pre ++ post, hrecords, h.hasLedger, h.explained, ?_⟩
  intro script templates bindings hresolve e he
  have hstaged := Script.resolve_staged hresolve
  obtain ⟨rule, hrule, habout⟩ := hrecords.exists_rule he
  rw [habout.stage]
  rcases List.mem_append.1 hrule with hrule | hrule
  · rw [hstaged.preconditions rule hrule]
    decide
  · rw [hstaged.assertions rule hrule]
    decide

/-- **What is skipped, and why.** In document order, the preconditions passed, or were skipped, or
passed up to one that failed. If they did not all pass, or anything else kept the assertions from
being run, the assertions were all skipped; otherwise they all gave a verdict, or they did up to one
that raised the error of the call. -/
theorem run_outcomes (c : Caller σ) (s : ResolvedScript) (w : World σ) :
    ∃ pre post : List LedgerEntry,
      Records pre s.layer.preconditions ∧
      Records post s.layer.assertions ∧
      (c.run s w).1.HasLedger (pre ++ post) ∧
      PreconditionOutcomes pre ∧
      (c.Hindered s w (c.run s w).1 pre → AllAre .skipped post) ∧
      (¬ c.Hindered s w (c.run s w).1 pre → c.AssertionOutcomes s w (c.run s w).1 pre post) := by
  obtain ⟨pre, post, h⟩ := (c.run_ends s w).ledgers
  exact ⟨pre, post, h.records.1, h.records.2, h.hasLedger, h.preconditionOutcomes,
    h.allAre_skipped, h.assertionOutcomes⟩

end Caller

end RestSuite
