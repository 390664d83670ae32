import RestSuite.Proofs.Call.Stages

/-!
# The course of a call

`Caller.run` goes from stage to stage and can leave at each of them. This module says how far a call
comes and how it ends, once for all later proofs.

* **`Builds`, `Sends`, `Receives`, `Extracts`, `Asserts`** — the milestones: the request stands, goes
  out, is answered, its extractors have run, its assertions are about to run. Each one names the
  world in which it happens.
* **`Ends`** — the twelve ways in which a call ends, each with the whole record of the call and the
  world that is left.
* **`run_ends`** — there is no other way.
-/

namespace RestSuite

namespace Call

/-- The record of a call that is over its first stages, apart from its ledger and its end. -/
def inProgress (script : String) (request : Option Request) (response : Option Response)
    (messages : List String) (sent : Bool) : Call :=
  { fresh script with
    request := request, response := response, extractionErrors := messages, sent := sent }

/-- The call, ended because the run was stopped. -/
def stop (call : Call) : Call :=
  { call with cancelled := true, state := .cancelled }

/-- The call at a state. -/
def inState (call : Call) (state : CallState) : Call :=
  { call with state := state }

end Call

namespace Caller

variable {σ : Type} {c : Caller σ} {s : ResolvedScript} {w : World σ}

/-! ## Milestones -/

/-- The request stands in a world: every rule has a behavior, no stop was seen, and the variables
and the request expanded. -/
inductive Builds (c : Caller σ) (s : ResolvedScript) (w : World σ) : Request → World σ → Prop where
  | intro {request : Request} {built : World σ}
      (hvalid : c.registry.validate s = .ok ())
      (hgoing : (w.poll c.services).stopped = false)
      (hbuild : c.build s (w.poll c.services) = (.ok request, built)) :
      Builds c s w request built

/-- The request goes out in a world: it stands, the preconditions passed and left their entries, and
no stop was seen. -/
inductive Sends (c : Caller σ) (s : ResolvedScript) (w : World σ) :
    Request → List LedgerEntry → World σ → Prop where
  | intro {request : Request} {entries : List LedgerEntry} {built w₁ : World σ}
      (hbuilds : c.Builds s w request built)
      (hran : c.Ran .precondition s (some request) none built s.layer.preconditions entries w₁)
      (hgoing : (w₁.poll c.services).stopped = false) :
      Sends c s w request entries (w₁.poll c.services)

/-- The world once the transport has dealt with a request. -/
def afterSend (c : Caller σ) (request : Request) (w : World σ) : World σ :=
  { w.settle (c.services.send request w.host) with sent := w.sent ++ [request] }

/-- The request was answered, and the transport left a world. -/
inductive Receives (c : Caller σ) (s : ResolvedScript) (w : World σ) :
    Request → Response → List LedgerEntry → World σ → Prop where
  | intro {request : Request} {response : Response} {entries : List LedgerEntry} {w₁ : World σ}
      (hsends : c.Sends s w request entries w₁)
      (hreply : (c.services.send request w₁.host).value = .ok response) :
      Receives c s w request response entries (c.afterSend request w₁)

/-- An extractor ended the call: a response was there, no stop was seen, and the extractors did not
come to their end. -/
inductive ExtractionHalts (c : Caller σ) (s : ResolvedScript) (w : World σ) : Prop where
  | intro {request : Request} {response : Response} {entries : List LedgerEntry} {e : CallError}
      {messages : List String} {w₁ w₂ : World σ}
      (hreceives : c.Receives s w request response entries w₁)
      (hgoing : (w₁.poll c.services).stopped = false)
      (htake : c.takeAll s (some request) (some response) s.layer.extractors []
        (w₁.poll c.services) = (.error e, messages, w₂)) :
      ExtractionHalts c s w

/-- The extractors have all run, with the messages of those that failed, and left a world. -/
inductive Extracts (c : Caller σ) (s : ResolvedScript) (w : World σ) :
    Request → Response → List LedgerEntry → List String → World σ → Prop where
  | intro {request : Request} {response : Response} {entries : List LedgerEntry}
      {messages : List String} {w₁ w₂ : World σ}
      (hreceives : c.Receives s w request response entries w₁)
      (hgoing : (w₁.poll c.services).stopped = false)
      (htake : c.takeAll s (some request) (some response) s.layer.extractors []
        (w₁.poll c.services) = (.ok (), messages, w₂)) :
      Extracts c s w request response entries messages w₂

/-- The assertions are run, from a world on. -/
inductive Asserts (c : Caller σ) (s : ResolvedScript) (w : World σ) :
    Request → Response → List LedgerEntry → List String → World σ → Prop where
  | intro {request : Request} {response : Response} {entries : List LedgerEntry}
      {messages : List String} {w₁ : World σ}
      (hextracts : c.Extracts s w request response entries messages w₁)
      (hgoing : (w₁.poll c.services).stopped = false) :
      Asserts c s w request response entries messages (w₁.poll c.services)

/-! ### What is reached is determined -/

theorem Builds.unique {request request' : Request} {built built' : World σ}
    (h : c.Builds s w request built) (h' : c.Builds s w request' built') :
    request = request' ∧ built = built' := by
  obtain ⟨-, -, hbuild⟩ := h
  obtain ⟨-, -, hbuild'⟩ := h'
  cases hbuild.symm.trans hbuild'
  exact ⟨rfl, rfl⟩

theorem Sends.unique {request request' : Request} {entries entries' : List LedgerEntry}
    {w₁ w₂ : World σ} (h : c.Sends s w request entries w₁) (h' : c.Sends s w request' entries' w₂) :
    request = request' ∧ entries = entries' ∧ w₁ = w₂ := by
  obtain ⟨hbuilds, hran, -⟩ := h
  obtain ⟨hbuilds', hran', -⟩ := h'
  obtain ⟨rfl, rfl⟩ := hbuilds.unique hbuilds'
  obtain ⟨rfl, rfl⟩ := hran.unique hran'
  exact ⟨rfl, rfl, rfl⟩

theorem Receives.unique {request request' : Request} {response response' : Response}
    {entries entries' : List LedgerEntry} {w₁ w₂ : World σ}
    (h : c.Receives s w request response entries w₁)
    (h' : c.Receives s w request' response' entries' w₂) :
    request = request' ∧ response = response' ∧ entries = entries' ∧ w₁ = w₂ := by
  obtain ⟨hsends, hreply⟩ := h
  obtain ⟨hsends', hreply'⟩ := h'
  obtain ⟨rfl, rfl, rfl⟩ := hsends.unique hsends'
  cases hreply.symm.trans hreply'
  exact ⟨rfl, rfl, rfl, rfl⟩

theorem Extracts.unique {request request' : Request} {response response' : Response}
    {entries entries' : List LedgerEntry} {messages messages' : List String} {w₁ w₂ : World σ}
    (h : c.Extracts s w request response entries messages w₁)
    (h' : c.Extracts s w request' response' entries' messages' w₂) :
    request = request' ∧ response = response' ∧ entries = entries' ∧ messages = messages'
      ∧ w₁ = w₂ := by
  obtain ⟨hreceives, -, htake⟩ := h
  obtain ⟨hreceives', -, htake'⟩ := h'
  obtain ⟨rfl, rfl, rfl, rfl⟩ := hreceives.unique hreceives'
  cases htake.symm.trans htake'
  exact ⟨rfl, rfl, rfl, rfl, rfl⟩

/-- Extractors that come to their end do not end the call. -/
theorem Extracts.not_extractionHalts {request : Request} {response : Response}
    {entries : List LedgerEntry} {messages : List String} {w₁ : World σ}
    (h : c.Extracts s w request response entries messages w₁) : ¬ c.ExtractionHalts s w := by
  rintro ⟨hreceives', -, htake'⟩
  obtain ⟨hreceives, -, htake⟩ := h
  obtain ⟨rfl, rfl, rfl, rfl⟩ := hreceives.unique hreceives'
  cases htake.symm.trans htake'

/-! ## Ends -/

/-- The ways in which a call ends: its record, and the world that is left. -/
inductive Ends (c : Caller σ) (s : ResolvedScript) (w : World σ) : Call × World σ → Prop where
  /-- A rule has no behavior. -/
  | misconfigured {e : ConfigurationError} (hvalid : c.registry.validate s = .error e) :
      Ends c s w
        (((Call.fresh s.name).fail (.configuration e)).withLedger
          (skippedEntries (s.layer.preconditions ++ s.layer.assertions) "script is misconfigured"),
         w.note (.callFailed s.name e.message))
  /-- A stop was seen before anything was done. -/
  | stoppedAtStart (hvalid : c.registry.validate s = .ok ())
      (hstop : (w.poll c.services).stopped = true) :
      Ends c s w
        ((Call.fresh s.name).stop.withLedger
          (skippedEntries (s.layer.preconditions ++ s.layer.assertions) "run cancelled"),
         w.poll c.services)
  /-- A variable or a part of the request did not expand. -/
  | unbuilt {e : CallError} {w₁ : World σ} (hvalid : c.registry.validate s = .ok ())
      (hgoing : (w.poll c.services).stopped = false)
      (hbuild : c.build s (w.poll c.services) = (.error e, w₁)) :
      Ends c s w
        (((Call.fresh s.name).fail e).withLedger
          (skippedEntries (s.layer.preconditions ++ s.layer.assertions)
            "request could not be built"),
         w₁.note (.callFailed s.name e.message))
  /-- A precondition failed. -/
  | refused {request : Request} {entries : List LedgerEntry} {built w₁ : World σ}
      (hbuilds : c.Builds s w request built)
      (hchecked : c.Checked .precondition s (some request) none built s.layer.preconditions
        .refused entries w₁) :
      Ends c s w
        (((Call.inProgress s.name (some request) none [] false).inState .failed).withLedger
          (entries ++ skippedEntries s.layer.assertions "precondition failed"),
         w₁)
  /-- A precondition gave no verdict. -/
  | preconditionHalted {request : Request} {entries : List LedgerEntry} {e : CallError}
      {built w₁ : World σ} (hbuilds : c.Builds s w request built)
      (hchecked : c.Checked .precondition s (some request) none built s.layer.preconditions
        (.halted e) entries w₁) :
      Ends c s w
        (((Call.inProgress s.name (some request) none [] false).fail e).withLedger
          (entries ++ skippedEntries s.layer.assertions "precondition could not run"),
         w₁.note (.callFailed s.name e.message))
  /-- A stop was seen before the request went out. -/
  | stoppedBeforeSending {request : Request} {entries : List LedgerEntry} {built w₁ : World σ}
      (hbuilds : c.Builds s w request built)
      (hran : c.Ran .precondition s (some request) none built s.layer.preconditions entries w₁)
      (hstop : (w₁.poll c.services).stopped = true) :
      Ends c s w
        ((Call.inProgress s.name (some request) none [] false).stop.withLedger
          (entries ++ skippedEntries s.layer.assertions "run cancelled"),
         w₁.poll c.services)
  /-- No response came back. -/
  | unanswered {request : Request} {entries : List LedgerEntry} {e : TransportError} {w₁ : World σ}
      (hsends : c.Sends s w request entries w₁)
      (hreply : (c.services.send request w₁.host).value = .error e) :
      Ends c s w
        (((Call.inProgress s.name (some request) none [] true).fail (.transport e)).withLedger
          (entries ++ skippedEntries s.layer.assertions "request failed"),
         (c.afterSend request w₁).note (.callFailed s.name e.message))
  /-- A stop was seen when the response was there. -/
  | stoppedOnReceipt {request : Request} {response : Response} {entries : List LedgerEntry}
      {w₁ : World σ} (hreceives : c.Receives s w request response entries w₁)
      (hstop : (w₁.poll c.services).stopped = true) :
      Ends c s w
        ((Call.inProgress s.name (some request) (some response) [] true).stop.withLedger
          (entries ++ skippedEntries s.layer.assertions "run cancelled"),
         w₁.poll c.services)
  /-- An extractor ended the call. -/
  | extractionHalted {request : Request} {response : Response} {entries : List LedgerEntry}
      {e : CallError} {messages : List String} {w₁ w₂ : World σ}
      (hreceives : c.Receives s w request response entries w₁)
      (hgoing : (w₁.poll c.services).stopped = false)
      (htake : c.takeAll s (some request) (some response) s.layer.extractors []
        (w₁.poll c.services) = (.error e, messages, w₂)) :
      Ends c s w
        (((Call.inProgress s.name (some request) (some response) messages true).fail e).withLedger
          (entries ++ skippedEntries s.layer.assertions "extraction failed"),
         w₂.note (.callFailed s.name e.message))
  /-- A stop was seen before the assertions. -/
  | stoppedBeforeAsserting {request : Request} {response : Response} {entries : List LedgerEntry}
      {messages : List String} {w₁ : World σ}
      (hextracts : c.Extracts s w request response entries messages w₁)
      (hstop : (w₁.poll c.services).stopped = true) :
      Ends c s w
        ((Call.inProgress s.name (some request) (some response) messages true).stop.withLedger
          (entries ++ skippedEntries s.layer.assertions "run cancelled"),
         w₁.poll c.services)
  /-- An assertion gave no verdict. -/
  | assertionHalted {request : Request} {response : Response} {entries more : List LedgerEntry}
      {messages : List String} {e : CallError} {w₁ w₂ : World σ}
      (hasserts : c.Asserts s w request response entries messages w₁)
      (hchecked : c.Checked .assertion s (some request) (some response) w₁ s.layer.assertions
        (.halted e) more w₂) :
      Ends c s w
        (((Call.inProgress s.name (some request) (some response) messages true).fail e).withLedger
          (entries ++ more),
         w₂.note (.callFailed s.name e.message))
  /-- Every assertion gave its verdict. -/
  | asserted {request : Request} {response : Response} {entries more : List LedgerEntry}
      {messages : List String} {w₁ w₂ : World σ}
      (hasserts : c.Asserts s w request response entries messages w₁)
      (hran : c.Ran .assertion s (some request) (some response) w₁ s.layer.assertions more w₂) :
      Ends c s w
        (((Call.inProgress s.name (some request) (some response) messages true).inState
          .asserted).withLedger (entries ++ more),
         w₂)

/-! ## The stages, from the last to the first

Each stage is entered with a call whose ledger holds the entries so far. The proofs go backwards, so
that a stage can use what is known of the next one. -/

/-- Skipping what is pending and cancelling appends to the ledger. -/
theorem cancel_withLedger (call : Call) (entries : List LedgerEntry) (pending : List Rule) :
    cancel (call.withLedger entries) pending =
      call.stop.withLedger (entries ++ skippedEntries pending "run cancelled") := by
  unfold cancel
  rw [Call.withLedger_skip]
  rfl

/-- Skipping what is pending and failing appends to the ledger. -/
theorem abort_withLedger (call : Call) (entries : List LedgerEntry) (pending : List Rule)
    (reason : String) (e : CallError) (w : World σ) :
    abort (call.withLedger entries) pending reason e w =
      ((call.fail e).withLedger (entries ++ skippedEntries pending reason),
        w.note (.callFailed call.script e.message)) := by
  unfold abort fail
  rw [Call.withLedger_skip]
  rfl

theorem assertStage_ends {request : Request} {response : Response} {entries : List LedgerEntry}
    {messages : List String} {w₁ : World σ}
    (hasserts : c.Asserts s w request response entries messages w₁) :
    c.Ends s w (c.assertStage s request response
      (((Call.inProgress s.name (some request) (some response) messages true).inState
        .extracted).withLedger entries) w₁) := by
  obtain ⟨fin, more, w₂, heq, hchecked⟩ :=
    checkAll_checked c .assertion s (some request) (some response) s.layer.assertions
      ((Call.inProgress s.name (some request) (some response) messages true).inState .extracted)
      entries w₁
  unfold assertStage
  rw [heq]
  cases fin with
  | halted e => exact .assertionHalted hasserts hchecked
  | completed =>
    cases hchecked with
    | completed hran => exact .asserted hasserts hran
  | refused =>
    -- only preconditions refuse
    cases hchecked with
    | refused hstage _ _ _ => cases hstage

theorem extractStage_ends {request : Request} {response : Response} {entries : List LedgerEntry}
    {w₁ : World σ} (hreceives : c.Receives s w request response entries w₁)
    (hgoing : (w₁.poll c.services).stopped = false) :
    c.Ends s w (c.extractStage s request response
      (((Call.inProgress s.name (some request) (some response) [] true).inState
        .received).withLedger entries) (w₁.poll c.services)) := by
  unfold extractStage
  rcases htake : c.takeAll s (some request) (some response) s.layer.extractors []
    (w₁.poll c.services) with ⟨result, messages, w₂⟩
  let received := (Call.inProgress s.name (some request) (some response) messages true).inState
    .received
  let extracted := received.inState .extracted
  cases result with
  | error e =>
    show c.Ends s w (abort (received.withLedger entries) s.layer.assertions "extraction failed" e w₂)
    rw [abort_withLedger]
    exact .extractionHalted hreceives hgoing htake
  | ok _ =>
    -- messages of failed extractors are kept, and the flag is looked at once more
    have hextracts := Extracts.intro hreceives hgoing htake
    show c.Ends s w
      (if (w₂.poll c.services).stopped then
        (cancel (extracted.withLedger entries) s.layer.assertions, w₂.poll c.services)
      else c.assertStage s request response (extracted.withLedger entries) (w₂.poll c.services))
    cases hstop : (w₂.poll c.services).stopped with
    | true =>
      rw [if_pos rfl, cancel_withLedger]
      exact .stoppedBeforeAsserting hextracts hstop
    | false =>
      rw [if_neg Bool.false_ne_true]
      exact assertStage_ends (.intro hextracts hstop)

theorem sendStage_ends {request : Request} {entries : List LedgerEntry} {w₁ : World σ}
    (hsends : c.Sends s w request entries w₁) :
    c.Ends s w (c.sendStage s request
      ((Call.inProgress s.name (some request) none [] false).withLedger entries) w₁) := by
  let sent := (Call.inProgress s.name (some request) none [] true).inState .sent
  unfold sendStage
  dsimp only
  split
  · next e hreply =>
    show c.Ends s w (abort (sent.withLedger entries) s.layer.assertions "request failed"
      (.transport e) (c.afterSend request w₁))
    rw [abort_withLedger]
    exact .unanswered hsends hreply
  · next response hreply =>
    -- the response is kept before the flag is looked at
    have hreceives := Receives.intro hsends hreply
    let received :=
      (Call.inProgress s.name (some request) (some response) [] true).inState .received
    let w₂ := (c.afterSend request w₁).poll c.services
    show c.Ends s w
      (if w₂.stopped then (cancel (received.withLedger entries) s.layer.assertions, w₂)
      else c.extractStage s request response (received.withLedger entries) w₂)
    cases hstop : w₂.stopped with
    | true =>
      rw [if_pos rfl, cancel_withLedger]
      exact .stoppedOnReceipt hreceives hstop
    | false =>
      rw [if_neg Bool.false_ne_true]
      exact extractStage_ends hreceives hstop

theorem preconditionStage_ends {request : Request} {built : World σ}
    (hbuilds : c.Builds s w request built) :
    c.Ends s w (c.preconditionStage s request (Call.fresh s.name) built) := by
  obtain ⟨fin, entries, w₁, heq, hchecked⟩ :=
    checkAll_checked c .precondition s (some request) none s.layer.preconditions
      (Call.fresh s.name) [] built
  let standing := Call.inProgress s.name (some request) none [] false
  unfold preconditionStage
  rw [← Call.fresh_withLedger_nil, heq, List.nil_append]
  cases fin with
  | refused =>
    -- the request is put back into the record on every way out of the stage
    show c.Ends s w (((standing.withLedger entries).skip s.layer.assertions
      "precondition failed").inState .failed, w₁)
    rw [Call.withLedger_skip]
    exact .refused hbuilds hchecked
  | halted e =>
    show c.Ends s w (abort (standing.withLedger entries) s.layer.assertions
      "precondition could not run" e w₁)
    rw [abort_withLedger]
    exact .preconditionHalted hbuilds hchecked
  | completed =>
    cases hchecked with
    | completed hran =>
      show c.Ends s w
        (if (w₁.poll c.services).stopped then
          (cancel (standing.withLedger entries) s.layer.assertions, w₁.poll c.services)
        else c.sendStage s request (standing.withLedger entries) (w₁.poll c.services))
      cases hstop : (w₁.poll c.services).stopped with
      | true =>
        rw [if_pos rfl, cancel_withLedger]
        exact .stoppedBeforeSending hbuilds hran hstop
      | false =>
        rw [if_neg Bool.false_ne_true]
        exact sendStage_ends (.intro hbuilds hran hstop)

/-- **Every way a call can end.** -/
theorem run_ends (c : Caller σ) (s : ResolvedScript) (w : World σ) :
    c.Ends s w (c.run s w) := by
  unfold run
  rw [← Call.fresh_withLedger_nil]
  cases hvalid : c.registry.validate s with
  | error e =>
    show c.Ends s w (abort _ _ _ _ _)
    rw [abort_withLedger]
    exact .misconfigured hvalid
  | ok _ =>
    cases hstop : (w.poll c.services).stopped with
    | true =>
      simp only [hstop, if_true, cancel_withLedger]
      exact .stoppedAtStart hvalid hstop
    | false =>
      simp only [hstop, Bool.false_eq_true, if_false]
      rcases hbuild : c.build s (w.poll c.services) with ⟨result, built⟩
      cases result with
      | error e =>
        show c.Ends s w (abort _ _ _ _ _)
        rw [abort_withLedger]
        exact .unbuilt hvalid hstop hbuild
      | ok request => exact preconditionStage_ends (.intro hvalid hstop hbuild)

end Caller

end RestSuite
