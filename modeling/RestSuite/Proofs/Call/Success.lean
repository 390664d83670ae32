import RestSuite.Proofs.Call.Accounting
import RestSuite.Proofs.Call.Exchange

/-!
# What a successful call has done

`Call.isSuccessful` looks at three fields of the record: no error, nothing failed, not cancelled.
Calls that were abandoned have empty lists of failures too, so it is not plain that these three
fields are enough.

* **`Caller.Passes`** — what one would call a success: the request went out once, an answer came, no
  extractor ended the call, and every check passed.
* **`Caller.Ends.passes`**, **`Caller.Ends.isSuccessful`** — a call is successful exactly if it passes
  and was not cancelled.
* **`Caller.Ends.stopped_of_cancelled`** — a call that was cancelled leaves the flag set.
-/

namespace RestSuite

theorem Call.isSuccessful_iff {call : Call} :
    call.isSuccessful = true ↔
      call.error = none ∧ call.failed = [] ∧ call.cancelled = false := by
  unfold Call.isSuccessful
  rw [Bool.and_eq_true, Bool.and_eq_true, Option.isNone_iff_eq_none, List.isEmpty_iff,
    Bool.not_eq_true', and_assoc]

/-- A ledger in which something failed is not one without failures. -/
theorem Call.HasLedger.failed_ne_nil {call : Call} {entries : List LedgerEntry} {e : LedgerEntry}
    (h : call.HasLedger entries) (he : e ∈ entries) (hfailed : e.outcome = .failed) :
    call.failed ≠ [] := by
  rw [h.failed]
  exact List.ne_nil_of_mem (mem_entriesOf.2 ⟨he, hfailed⟩)

/-- Where nothing failed and nothing was skipped, everything passed. -/
theorem Call.HasLedger.passed_eq {call : Call} {entries : List LedgerEntry}
    (h : call.HasLedger entries) (hfailed : call.failed = []) (hskipped : call.skipped = []) :
    call.passed = entries := by
  have hall : AllAre .passed entries := by
    intro e he
    cases ho : e.outcome with
    | passed => rfl
    | failed => exact absurd hfailed (h.failed_ne_nil he ho)
    | skipped =>
      have hmem : e ∈ call.skipped := by
        rw [h.skipped]
        exact mem_entriesOf.2 ⟨he, ho⟩
      rw [hskipped] at hmem
      cases hmem
  rw [h.passed, hall.entriesOf_self]

namespace Caller

variable {σ : Type} {c : Caller σ} {s : ResolvedScript} {w : World σ} {r : Call × World σ}

/-- Exactly one request was sent, which a response came for, no extractor ended the call, and every
precondition and assertion is among the passed entries, with none failed and none skipped. -/
inductive Passes (c : Caller σ) (s : ResolvedScript) (w : World σ) (r : Call × World σ) : Prop where
  | intro {request : Request} {response : Response}
      (hexchanged : c.Exchanges w [⟨request, .ok response⟩] r.2)
      (hrequest : r.1.request = some request)
      (hresponse : r.1.response = some response)
      (hextracted : ¬ c.ExtractionHalts s w)
      (hpassed : Records r.1.passed (s.layer.preconditions ++ s.layer.assertions))
      (hfailed : r.1.failed = [])
      (hskipped : r.1.skipped = [])

/-- A stage that was ended by a rule has recorded a failure. -/
theorem Checked.exists_failed {stage : Stage} {request : Option Request}
    {response : Option Response} {rules : List Rule} {fin : StageEnd} {entries : List LedgerEntry}
    {w' : World σ} (h : c.Checked stage s request response w rules fin entries w')
    (hfin : fin ≠ .completed) : ∃ e ∈ entries, e.outcome = .failed := by
  cases h with
  | completed _ => exact absurd rfl hfin
  | refused _ _ _ _ => exact ⟨_, List.mem_append_right _ List.mem_cons_self, rfl⟩
  | halted _ _ _ => exact ⟨_, List.mem_append_right _ List.mem_cons_self, rfl⟩

/-- A call with a request and a response has exchanged these, and nothing else. -/
theorem Ends.exchanged (h : c.Ends s w r) {request : Request} {response : Response}
    (hrequest : r.1.request = some request) (hresponse : r.1.response = some response) :
    c.Exchanges w [⟨request, .ok response⟩] r.2 := by
  obtain ⟨xs, htransmits, hexchanges⟩ := h.exchanges
  cases htransmits with
  | nothing _ hnone => cases hresponse.symm.trans hnone
  | @request x _ hrequest' hreply =>
    obtain ⟨sent, reply⟩ := x
    cases hrequest.symm.trans hrequest'
    cases reply with
    | error e => cases hresponse.symm.trans hreply
    | ok answer =>
      cases hresponse.symm.trans hreply
      exact hexchanges

/-- Where every precondition passed and every assertion gave its verdict, nothing is skipped. -/
theorem entriesOf_skipped_eq_nil {entries more : List LedgerEntry} (hpassed : AllAre .passed entries)
    (hverdicts : ∀ e ∈ more, e.outcome ≠ .skipped) : entriesOf .skipped (entries ++ more) = [] := by
  have hmore : entriesOf .skipped more = [] :=
    List.filter_eq_nil_iff.2 fun e he => by simpa using hverdicts e he
  rw [entriesOf_append, hpassed.entriesOf_other (by decide), hmore, List.append_nil]

/-- **A successful call passes.** Of the twelve ways to end a call, only the last has no error, no
failed entry and no mark of a stop. -/
theorem Ends.passes (h : c.Ends s w r) (hok : r.1.isSuccessful = true) : c.Passes s w r := by
  obtain ⟨herror, hfailed, hcancelled⟩ := Call.isSuccessful_iff.1 hok
  have hexchanged : ∀ request response, r.1.request = some request →
      r.1.response = some response → c.Exchanges w [⟨request, .ok response⟩] r.2 :=
    fun _ _ => h.exchanged
  cases h with
  | misconfigured _ => cases herror
  | stoppedAtStart _ _ => cases hcancelled
  | unbuilt _ _ _ => cases herror
  | refused _ hchecked =>
    -- a refused call has no error, only the entry of the precondition gives it away
    obtain ⟨e, he, hout⟩ := hchecked.exists_failed nofun
    exact absurd hfailed
      ((Call.hasLedger_withLedger _ _).failed_ne_nil (List.mem_append_left _ he) hout)
  | preconditionHalted _ _ => cases herror
  | stoppedBeforeSending _ _ _ => cases hcancelled
  | unanswered _ _ => cases herror
  | stoppedOnReceipt _ _ => cases hcancelled
  | extractionHalted _ _ _ => cases herror
  | stoppedBeforeAsserting _ _ => cases hcancelled
  | assertionHalted _ _ => cases herror
  | @asserted request response entries more messages w₁ w₂ hasserts hran =>
    have hledger := Call.hasLedger_withLedger
      ((Call.inProgress s.name (some request) (some response) messages true).inState .asserted)
      (entries ++ more)
    have hskipped : entriesOf .skipped (entries ++ more) = [] :=
      entriesOf_skipped_eq_nil hasserts.allAre_passed hran.ne_skipped
    obtain ⟨_, _, hpreran⟩ := hasserts.ran
    obtain ⟨hextracts, -⟩ := hasserts
    refine .intro (hexchanged request response rfl rfl) rfl rfl hextracts.not_extractionHalts ?_
      hfailed hskipped
    rw [hledger.passed_eq hfailed hskipped]
    exact hpreran.records.append hran.records

/-- **A call that passes and was not cancelled is successful.** An assertion that gives no verdict is
the one way to get this far and end in an error, and it leaves a failed entry. -/
theorem Ends.isSuccessful (h : c.Ends s w r) (hpasses : c.Passes s w r)
    (hcancelled : r.1.cancelled = false) : r.1.isSuccessful = true := by
  obtain ⟨-, -, hresponse, hextracted, -, hfailed, -⟩ := hpasses
  refine Call.isSuccessful_iff.2 ⟨?_, hfailed, hcancelled⟩
  cases h with
  | misconfigured _ => cases hresponse
  | stoppedAtStart _ _ => rfl
  | unbuilt _ _ _ => cases hresponse
  | refused _ _ => rfl
  | preconditionHalted _ _ => cases hresponse
  | stoppedBeforeSending _ _ _ => rfl
  | unanswered _ _ => cases hresponse
  | stoppedOnReceipt _ _ => rfl
  | extractionHalted hreceives hgoing htake =>
    exact absurd ⟨hreceives, hgoing, htake⟩ hextracted
  | stoppedBeforeAsserting _ _ => rfl
  | assertionHalted _ hchecked =>
    obtain ⟨e, he, hout⟩ := hchecked.exists_failed nofun
    exact absurd hfailed
      ((Call.hasLedger_withLedger _ _).failed_ne_nil (List.mem_append_right _ he) hout)
  | asserted _ _ => rfl

/-- **A cancelled call leaves the flag set.** -/
theorem Ends.stopped_of_cancelled (h : c.Ends s w r) (hcancelled : r.1.cancelled = true) :
    r.2.stopped = true := by
  cases h with
  | stoppedAtStart _ hstop => exact hstop
  | stoppedBeforeSending _ _ hstop => exact hstop
  | stoppedOnReceipt _ hstop => exact hstop
  | stoppedBeforeAsserting _ hstop => exact hstop
  | _ => cases hcancelled

end Caller

end RestSuite
