import RestSuite.Proofs.Call.Accounting
import RestSuite.Proofs.Call.Exchange

/-!
# Calls that are stopped

The flag can be set at any moment of a call: by anyone else, which shows at the next look at it, or by
the transport, a behavior or the evaluator. The call looks at it four times. What follows from a flag
that is set does not depend on who has set it, only on how far the call had come.

* **`Caller.BeforeSending`**, **`Caller.BeforeAsserting`** — the worlds that a call passes before its
  request goes out and before its assertions are run.
* **`Caller.Interrupted`** — the four moments at which a call is cancelled, with what it keeps.
* **`Caller.HeedsStops`**, **`Caller.run_heedsStops`** — what a stop holds back and what it leaves.
-/

namespace RestSuite.Caller

variable {σ : Type} {c : Caller σ} {s : ResolvedScript} {w w' : World σ}

/-! ## Worlds on the way -/

/-- A call passes a world before its last look at the flag on the way to the transport, or with this
look. -/
inductive BeforeSending (c : Caller σ) (s : ResolvedScript) (w : World σ) : World σ → Prop where
  /-- Nothing is done yet. -/
  | start : BeforeSending c s w w
  /-- The flag was looked at for the first time. -/
  | looked : BeforeSending c s w (w.poll c.services)
  /-- Some of the preconditions were run. -/
  | checking {request : Request} {done rest : List Rule} {entries : List LedgerEntry}
      {built w₁ : World σ} (hbuilds : c.Builds s w request built)
      (hrules : s.layer.preconditions = done ++ rest)
      (hran : c.Ran .precondition s (some request) none built done entries w₁) :
      BeforeSending c s w w₁
  /-- All preconditions were run, and the flag was looked at once more. -/
  | lookedAgain {request : Request} {entries : List LedgerEntry} {built w₁ : World σ}
      (hbuilds : c.Builds s w request built)
      (hran : c.Ran .precondition s (some request) none built s.layer.preconditions entries w₁) :
      BeforeSending c s w (w₁.poll c.services)

/-- A call passes a world before its last look at the flag on the way to its assertions, or with this
look. -/
inductive BeforeAsserting (c : Caller σ) (s : ResolvedScript) (w : World σ) : World σ → Prop where
  | beforeSending {w₁ : World σ} (hbefore : c.BeforeSending s w w₁) : BeforeAsserting c s w w₁
  /-- The transport has dealt with the request. -/
  | sent {request : Request} {entries : List LedgerEntry} {w₁ : World σ}
      (hsends : c.Sends s w request entries w₁) : BeforeAsserting c s w (c.afterSend request w₁)
  /-- The response is there, and the flag was looked at. -/
  | looked {request : Request} {response : Response} {entries : List LedgerEntry} {w₁ : World σ}
      (hreceives : c.Receives s w request response entries w₁) :
      BeforeAsserting c s w (w₁.poll c.services)
  /-- Some of the extractors have run. -/
  | extracting {request : Request} {response : Response} {done rest : List Rule}
      {entries : List LedgerEntry} {messages : List String} {w₁ w₂ : World σ}
      (hreceives : c.Receives s w request response entries w₁)
      (hrules : s.layer.extractors = done ++ rest)
      (htake : c.takeAll s (some request) (some response) done [] (w₁.poll c.services) =
        (.ok (), messages, w₂)) :
      BeforeAsserting c s w w₂
  /-- All extractors have run, and the flag was looked at once more. -/
  | lookedAgain {request : Request} {response : Response} {entries : List LedgerEntry}
      {messages : List String} {w₁ : World σ}
      (hextracts : c.Extracts s w request response entries messages w₁) :
      BeforeAsserting c s w (w₁.poll c.services)

section Milestones

variable {request : Request} {response : Response} {entries : List LedgerEntry}
  {messages : List String} {w₁ : World σ}

/-- A request goes out only while the flag is clear. -/
theorem Sends.going (h : c.Sends s w request entries w₁) : w₁.stopped = false := by
  obtain ⟨-, -, hgoing⟩ := h
  exact hgoing

/-- Assertions are run only while the flag is clear. -/
theorem Asserts.going (h : c.Asserts s w request response entries messages w₁) :
    w₁.stopped = false := by
  obtain ⟨-, hgoing⟩ := h
  exact hgoing

/-- Extractors that come to their end are followed by the others. -/
theorem takeAll_append {request : Option Request} {response : Option Response}
    {done : List Rule} (rest : List Rule) {messages messages' : List String}
    (h : c.takeAll s request response done messages w = (.ok (), messages', w')) :
    c.takeAll s request response (done ++ rest) messages w =
      c.takeAll s request response rest messages' w' := by
  induction done generalizing messages w with
  | nil => cases h; rfl
  | cons rule done ih =>
    rcases htaken : c.takeOne rule (c.scene s request response w) w with ⟨result, w₁⟩
    rw [List.cons_append]
    cases result with
    | ok _ =>
      simp only [takeAll, htaken] at h ⊢
      exact ih h
    | error raised =>
      cases hfailure : failure rule raised with
      | error e =>
        simp only [takeAll, htaken, hfailure] at h
        cases h
      | ok message =>
        simp only [takeAll, htaken, hfailure] at h ⊢
        exact ih h

/-- What is kept by everything but sending is kept from a world before the request goes out up to the
moment at which it does. -/
theorem BeforeSending.quiet {R : World σ → World σ → Prop} (hR : c.Quiet R)
    (h : c.BeforeSending s w w') (hsends : c.Sends s w request entries w₁) : R w' w₁ := by
  cases h with
  | start => exact hR.of_sends hsends
  | looked =>
    obtain ⟨⟨-, -, hbuild⟩, hran, -⟩ := hsends
    exact hR.trans (hR.build hbuild) (hR.trans (hR.of_ran hran) (hR.poll _))
  | checking hbuilds hrules hdone =>
    obtain ⟨hbuilds', hran, -⟩ := hsends
    obtain ⟨rfl, rfl⟩ := hbuilds.unique hbuilds'
    rw [hrules] at hran
    obtain ⟨before, after, w₂, -, hdone', hrest⟩ := hran.append_inv
    obtain ⟨-, rfl⟩ := hdone.unique hdone'
    exact hR.trans (hR.of_ran hrest) (hR.poll _)
  | lookedAgain hbuilds hran =>
    obtain ⟨hbuilds', hran', -⟩ := hsends
    obtain ⟨rfl, rfl⟩ := hbuilds.unique hbuilds'
    obtain ⟨-, rfl⟩ := hran.unique hran'
    exact hR.refl _

/-- A stop before the request goes out holds it back. -/
theorem BeforeSending.not_sends (h : c.BeforeSending s w w') (hstop : w'.stopped = true) :
    ¬ c.Sends s w request entries w₁ := fun hsends =>
  Bool.false_ne_true (hsends.going.symm.trans (h.quiet c.quiet_stopped hsends hstop))

/-- A stop before the assertions holds them back. -/
theorem BeforeAsserting.not_asserts (h : c.BeforeAsserting s w w') (hstop : w'.stopped = true) :
    ¬ c.Asserts s w request response entries messages w₁ := by
  intro hasserts
  have hgoing := hasserts.going
  have hquiet := c.quiet_stopped
  obtain ⟨hextracts, -⟩ := hasserts
  obtain ⟨hreceives, -, htake⟩ := id hextracts
  obtain ⟨hsends, -⟩ := id hreceives
  -- the flag stays set, so it was set at the last look
  refine Bool.false_ne_true (hgoing.symm.trans ?_)
  cases h with
  | beforeSending hbefore => exact absurd hsends (hbefore.not_sends hstop)
  | sent hsends' =>
    obtain ⟨rfl, -, rfl⟩ := hsends.unique hsends'
    have hextraction := hquiet.trans (hquiet.poll _) (hquiet.of_takeAll htake)
    exact hquiet.trans hextraction (hquiet.poll _) hstop
  | looked hreceives' =>
    obtain ⟨rfl, rfl, -, rfl⟩ := hreceives.unique hreceives'
    exact hquiet.trans (hquiet.of_takeAll htake) (hquiet.poll _) hstop
  | extracting hreceives' hrules hdone =>
    obtain ⟨rfl, rfl, -, rfl⟩ := hreceives.unique hreceives'
    rw [hrules, takeAll_append _ hdone] at htake
    exact hquiet.trans (hquiet.of_takeAll htake) (hquiet.poll _) hstop
  | lookedAgain hextracts' =>
    obtain ⟨rfl, rfl, -, -, rfl⟩ := hextracts.unique hextracts'
    exact hstop

end Milestones

/-! ## What a stop holds back, and what it leaves -/

variable {r : Call × World σ}

/-- A call was cancelled at one of four looks at the flag. It keeps what it has received by then, and
the world, with all bindings in it, is left as that look left it. -/
inductive Interrupted (c : Caller σ) (s : ResolvedScript) (w : World σ) (r : Call × World σ) :
    Prop where
  | atStart (hstop : (w.poll c.services).stopped = true) (hrequest : r.1.request = none)
      (hresponse : r.1.response = none) (hworld : r.2 = w.poll c.services)
  | beforeSending {request : Request} {entries : List LedgerEntry} {built w₁ : World σ}
      (hbuilds : c.Builds s w request built)
      (hran : c.Ran .precondition s (some request) none built s.layer.preconditions entries w₁)
      (hstop : (w₁.poll c.services).stopped = true) (hrequest : r.1.request = some request)
      (hresponse : r.1.response = none) (hworld : r.2 = w₁.poll c.services)
  | onReceipt {request : Request} {response : Response} {entries : List LedgerEntry} {w₁ : World σ}
      (hreceives : c.Receives s w request response entries w₁)
      (hstop : (w₁.poll c.services).stopped = true) (hrequest : r.1.request = some request)
      (hresponse : r.1.response = some response) (hworld : r.2 = w₁.poll c.services)
  | beforeAsserting {request : Request} {response : Response} {entries : List LedgerEntry}
      {messages : List String} {w₁ : World σ}
      (hextracts : c.Extracts s w request response entries messages w₁)
      (hstop : (w₁.poll c.services).stopped = true) (hrequest : r.1.request = some request)
      (hresponse : r.1.response = some response) (hmessages : r.1.extractionErrors = messages)
      (hworld : r.2 = w₁.poll c.services)

/-- What holds of a script that is run, whenever the flag is set and whoever sets it. -/
structure HeedsStops (c : Caller σ) (s : ResolvedScript) (w : World σ) : Prop where
  /-- A stop before the request goes out keeps the script from the transport. -/
  sends_nothing : ∀ w', c.BeforeSending s w w' → w'.stopped = true →
    (c.run s w).1.Transmits [] ∧ c.Exchanges w [] (c.run s w).2
  /-- A stop before the assertions are run leaves all of them skipped. -/
  asserts_nothing : ∀ w', c.BeforeAsserting s w w' → w'.stopped = true →
    ∃ pre post, Records pre s.layer.preconditions ∧ Records post s.layer.assertions
      ∧ (c.run s w).1.HasLedger (pre ++ post) ∧ AllAre .skipped post
  /-- A response that has come stays in the record, however the call ends. -/
  keeps_response : ∀ request response entries w', c.Receives s w request response entries w' →
    (c.run s w).1.request = some request ∧ (c.run s w).1.response = some response
  /-- Cancelling undoes nothing. -/
  interrupted : (c.run s w).1.cancelled = true → c.Interrupted s w (c.run s w)

theorem BeforeAsserting.asserts_nothing (h : c.BeforeAsserting s w w')
    (hstop : w'.stopped = true) :
    ∃ pre post, Records pre s.layer.preconditions ∧ Records post s.layer.assertions
      ∧ (c.run s w).1.HasLedger (pre ++ post) ∧ AllAre .skipped post := by
  obtain ⟨pre, post, hledgers⟩ := (c.run_ends s w).ledgers
  refine ⟨pre, post, hledgers.records.1, hledgers.records.2, hledgers.hasLedger, ?_⟩
  cases hledgers with
  | untouched _ _ _ => exact allAre_skippedEntries _ _
  | unasserted _ _ _ _ => exact allAre_skippedEntries _ _
  | asserted hasserts _ _ _ _ _ _ => exact absurd hasserts (h.not_asserts hstop)

/-- A call whose request goes out says that it was sent. -/
theorem Ends.sent {request : Request} {entries : List LedgerEntry} (h : c.Ends s w r)
    (hsends : c.Sends s w request entries w') : r.1.sent = true := by
  obtain ⟨hbuilds, hran, hclear⟩ := hsends
  obtain ⟨hvalid, hgoing, hbuild⟩ := id hbuilds
  -- a call that ends without having sent anything did not come this far
  cases h with
  | misconfigured hvalid' => cases hvalid.symm.trans hvalid'
  | stoppedAtStart _ hstop => cases hgoing.symm.trans hstop
  | unbuilt _ _ hbuild' => cases hbuild.symm.trans hbuild'
  | refused hbuilds' hchecked =>
    obtain ⟨rfl, rfl⟩ := hbuilds.unique hbuilds'
    cases hran.fin_eq_completed hchecked
  | preconditionHalted hbuilds' hchecked =>
    obtain ⟨rfl, rfl⟩ := hbuilds.unique hbuilds'
    cases hran.fin_eq_completed hchecked
  | stoppedBeforeSending hbuilds' hran' hstop =>
    obtain ⟨rfl, rfl⟩ := hbuilds.unique hbuilds'
    obtain ⟨-, rfl⟩ := hran.unique hran'
    cases hclear.symm.trans hstop
  | _ => rfl

/-- A call that was answered keeps its request and the response. -/
theorem Ends.received {request : Request} {response : Response} {entries : List LedgerEntry}
    (h : c.Ends s w r) (hreceives : c.Receives s w request response entries w') :
    r.1.request = some request ∧ r.1.response = some response := by
  obtain ⟨hsends, hreply⟩ := hreceives
  have hcarries := h.carries c.quiet_exchanges
  cases hcarries with
  | nothing hsent _ _ => cases hsent.symm.trans (h.sent hsends)
  | request hsends' _ hrequest hresponse _ _ =>
    obtain ⟨rfl, -, rfl⟩ := hsends.unique hsends'
    rw [hreply] at hresponse
    exact ⟨hrequest, hresponse⟩

/-- A call that was cancelled left at one of the four looks at the flag. -/
theorem Ends.interrupted (h : c.Ends s w r) (hcancelled : r.1.cancelled = true) :
    c.Interrupted s w r := by
  cases h with
  | stoppedAtStart _ hstop => exact .atStart hstop rfl rfl rfl
  | stoppedBeforeSending hbuilds hran hstop => exact .beforeSending hbuilds hran hstop rfl rfl rfl
  | stoppedOnReceipt hreceives hstop => exact .onReceipt hreceives hstop rfl rfl rfl
  | stoppedBeforeAsserting hextracts hstop => exact .beforeAsserting hextracts hstop rfl rfl rfl rfl
  | _ => cases hcancelled

/-- **Every script that is run heeds a stop.** -/
theorem run_heedsStops (c : Caller σ) (s : ResolvedScript) (w : World σ) : c.HeedsStops s w where
  sends_nothing _ h hstop := sends_nothing_of_not_sends fun _ _ _ => h.not_sends hstop
  asserts_nothing _ h hstop := h.asserts_nothing hstop
  keeps_response _ _ _ _ hreceives := (c.run_ends s w).received hreceives
  interrupted hcancelled := (c.run_ends s w).interrupted hcancelled

end RestSuite.Caller
