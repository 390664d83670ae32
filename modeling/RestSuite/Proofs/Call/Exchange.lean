import RestSuite.Proofs.Call.Frame

/-!
# What passes between a call and the transport

The transport is outside; what it was asked is known from the list of sent requests and from
whatever record it keeps itself. This module compares both with the record of the call.

* **`Exchange`**, **`Caller.Recorder`** — a request and what came back for it; a record that the host
  keeps of them, which nothing but sending changes.
* **`Caller.Exchanges`** — what was sent between two worlds, on which all records agree.
* **`Call.Transmits`** — what a call says it has sent and received.
* **`Caller.run_exchanges`** — a call sends what it says, and nothing else.
* **`Caller.Withheld.sends_nothing`** — what keeps a script from the transport.
-/

namespace RestSuite

/-- A request that was handed to the transport, and what came back. -/
structure Exchange where
  request : Request
  reply : Except TransportError Response

/-- What a call says of the transport: it was not asked, or it was asked once, with the request of
the call, and the response of the call is what it answered, if it did. -/
inductive Call.Transmits (call : Call) : List Exchange → Prop where
  | nothing (hsent : call.sent = false) (hresponse : call.response = none) : Transmits call []
  | request {x : Exchange} (hsent : call.sent = true) (hrequest : call.request = some x.request)
      (hresponse : call.response = x.reply.toOption) : Transmits call [x]

/-- The requests of the calls that were sent are the requests of their exchanges, in order. -/
theorem requests_of_transmits {calls : List Call} {deliveries : List (List Exchange)}
    (h : List.Forall₂ Call.Transmits calls deliveries) :
    (calls.filter Call.sent).map Call.request =
      deliveries.flatten.map fun x => some x.request := by
  induction h with
  | nil => rfl
  | cons htransmits _ ih =>
    cases htransmits with
    | nothing hsent _ =>
      -- a call that was not sent is left out on both sides
      rw [List.filter_cons_of_neg (by rw [hsent]; decide), List.flatten_cons, List.nil_append]
      exact ih
    | request hsent hrequest _ =>
      rw [List.filter_cons_of_pos hsent, List.map_cons, hrequest, ih]
      rfl

namespace Caller

variable {σ : Type} {c : Caller σ} {s : ResolvedScript} {w w₁ w₂ w₃ : World σ}
  {xs ys : List Exchange}

/-- The host keeps a record of what was sent: sending adds to it, and nothing else that the calls do
touches it. So it is when nobody else uses the transport. -/
structure Recorder (c : Caller σ) (record : σ → List Exchange) : Prop where
  send : ∀ request host, record (c.services.send request host).host =
    record host ++ [⟨request, (c.services.send request host).value⟩]
  glance : ∀ host, record (c.services.glance host).host = record host
  assertion : ∀ {stage key assertion}, c.registry.assertion stage key = .ok assertion →
    ∀ rule scene host, record (assertion rule scene c.services.evaluator host).host = record host
  extractor : ∀ {key extractor}, c.registry.extractor key = .ok extractor →
    ∀ rule scene host, record (extractor rule scene c.services.evaluator host).host = record host

/-- Between two worlds the transport was asked exactly this: so says the list of sent requests, and
so says every record of the host. -/
structure Exchanges (c : Caller σ) (w : World σ) (xs : List Exchange) (w' : World σ) : Prop where
  sent : w'.sent = w.sent ++ xs.map Exchange.request
  recorded : ∀ record, c.Recorder record → record w'.host = record w.host ++ xs

/-! ## Records -/

/-- The standard assertions leave alone what the evaluator leaves alone. -/
theorem record_of_standardAssertion {record : σ → List Exchange} {evaluator : Option (Evaluator σ)}
    (hevaluator : ∀ evaluate, evaluator = some evaluate → ∀ expression bindings host,
      record (evaluate expression bindings host).host = record host)
    {key : String} {assertion : Assertion σ}
    (h : OrderedMap.get? Assertion.standard key = some assertion)
    (rule : Rule) (scene : Scene) (host : σ) :
    record (assertion rule scene evaluator host).host = record host := by
  have hmem := OrderedMap.mem_of_get? h
  simp only [Assertion.standard, List.mem_cons, Prod.mk.injEq, List.not_mem_nil, or_false] at hmem
  rcases hmem with ⟨-, rfl⟩ | ⟨-, rfl⟩ | ⟨-, rfl⟩ | ⟨-, rfl⟩ | ⟨-, rfl⟩ | ⟨-, rfl⟩ | ⟨-, rfl⟩
  all_goals try rfl
  -- only `eval` asks the host
  unfold Assertion.eval
  split
  · split
    · rfl
    · next evaluate =>
      split
      · rfl
      · exact hevaluator evaluate rfl _ _ host
  · rfl

/-- The standard extractors do not ask the host. -/
theorem host_of_standardExtractor {key : String} {extractor : Extractor σ}
    (h : OrderedMap.get? Extractor.standard key = some extractor)
    (rule : Rule) (scene : Scene) (evaluator : Option (Evaluator σ)) (host : σ) :
    (extractor rule scene evaluator host).host = host := by
  have hmem := OrderedMap.mem_of_get? h
  simp only [Extractor.standard, List.mem_cons, Prod.mk.injEq, List.not_mem_nil, or_false] at hmem
  rcases hmem with ⟨-, rfl⟩ | ⟨-, rfl⟩ | ⟨-, rfl⟩ | ⟨-, rfl⟩ | ⟨-, rfl⟩ <;> rfl

/-- With the standard behaviors, a record is kept if sending adds to it and neither a look at the
flag nor the evaluator changes it. -/
theorem recorder_of_standard {record : σ → List Exchange} (hregistry : c.registry = .standard)
    (hsend : ∀ request host, record (c.services.send request host).host =
      record host ++ [⟨request, (c.services.send request host).value⟩])
    (hglance : ∀ host, record (c.services.glance host).host = record host)
    (hevaluator : ∀ evaluate, c.services.evaluator = some evaluate →
      ∀ expression bindings host,
        record (evaluate expression bindings host).host = record host) :
    c.Recorder record where
  send := hsend
  glance := hglance
  assertion {stage key assertion} h rule scene host := by
    rw [hregistry] at h
    unfold Registry.assertion at h
    split at h
    · next found => cases h; exact record_of_standardAssertion hevaluator found rule scene host
    · cases h
  extractor {key extractor} h rule scene host := by
    rw [hregistry] at h
    unfold Registry.extractor at h
    split at h
    · next found => cases h; rw [host_of_standardExtractor found]
    · cases h

/-! ## Sequences of exchanges -/

theorem Exchanges.append (h : c.Exchanges w₁ xs w₂) (h' : c.Exchanges w₂ ys w₃) :
    c.Exchanges w₁ (xs ++ ys) w₃ where
  sent := by rw [h'.sent, h.sent, List.map_append, List.append_assoc]
  recorded record hrecord := by
    rw [h'.recorded record hrecord, h.recorded record hrecord, List.append_assoc]

/-- A change that sends nothing and leaves every record as it is. -/
theorem Exchanges.nothing (hsent : w₂.sent = w₁.sent)
    (hrecorded : ∀ record, c.Recorder record → record w₂.host = record w₁.host) :
    c.Exchanges w₁ [] w₂ where
  sent := by rw [hsent, List.map_nil, List.append_nil]
  recorded record hrecord := by rw [hrecorded record hrecord, List.append_nil]

/-- A change that does not touch the transport. -/
theorem Exchanges.of_eq (hsent : w₂.sent = w₁.sent) (hhost : w₂.host = w₁.host) :
    c.Exchanges w₁ [] w₂ :=
  .nothing hsent fun record _ => congrArg record hhost

/-- What was exchanged shows in the list of sent requests and in the host alone. -/
theorem Exchanges.congr (h : c.Exchanges w xs w₁) (hsent : w₂.sent = w₁.sent)
    (hhost : w₂.host = w₁.host) : c.Exchanges w xs w₂ := by
  have happend := h.append (.of_eq hsent hhost)
  rw [List.append_nil] at happend
  exact happend

theorem Exchanges.send (c : Caller σ) (request : Request) (w : World σ) :
    c.Exchanges w [⟨request, (c.services.send request w.host).value⟩] (c.afterSend request w) where
  sent := rfl
  recorded _ hrecord := hrecord.send request w.host

theorem Exchanges.poll (c : Caller σ) (w : World σ) : c.Exchanges w [] (w.poll c.services) :=
  .nothing rfl fun _ hrecord => hrecord.glance w.host

/-- Apart from sending, a call exchanges nothing. -/
theorem quiet_exchanges (c : Caller σ) : c.Quiet fun w w' => c.Exchanges w [] w' where
  refl _ := .of_eq rfl rfl
  trans h h' := h.append h'
  poll w := .poll c w
  note _ _ := .of_eq rfl rfl
  bind _ _ _ := .of_eq rfl rfl
  check stage rule scene w := by
    unfold Caller.check
    split
    · exact .of_eq rfl rfl
    · next assertion hassertion =>
      exact .nothing rfl fun _ hrecord => hrecord.assertion hassertion rule scene w.host
  takeOne rule scene w := by
    unfold Caller.takeOne
    split
    · exact .of_eq rfl rfl
    · next extractor hextractor =>
      exact .nothing rfl fun _ hrecord => hrecord.extractor hextractor rule scene w.host

/-! ## Calls -/

theorem Ends.exchanges {r : Call × World σ} (h : c.Ends s w r) :
    ∃ xs, r.1.Transmits xs ∧ c.Exchanges w xs r.2 := by
  have hcarries := h.carries c.quiet_exchanges
  cases hcarries with
  | nothing hsent hresponse hquiet => exact ⟨[], .nothing hsent hresponse, hquiet⟩
  | request _ hsent hrequest hresponse hbefore hafter =>
    -- nothing before, one request, nothing behind
    have hsending := (hbefore.append (.send c _ _)).append hafter
    exact ⟨_, .request hsent hrequest hresponse, hsending⟩

/-- **A call sends what it says.** It exchanges nothing with the transport, or one request, and its
record agrees with that. -/
theorem run_exchanges (c : Caller σ) (s : ResolvedScript) (w : World σ) :
    ∃ xs, (c.run s w).1.Transmits xs ∧ c.Exchanges w xs (c.run s w).2 :=
  (c.run_ends s w).exchanges

/-- Rules that were run one after the other make a stage that completed. -/
theorem Ran.checkAll {stage : Stage} {request : Option Request} {response : Option Response}
    {rules : List Rule} {entries : List LedgerEntry}
    (h : c.Ran stage s request response w rules entries w₁) (call : Call)
    (recorded : List LedgerEntry) :
    c.checkAll stage s request response rules (call.withLedger recorded) w =
      (.completed, call.withLedger (recorded ++ entries), w₁) := by
  induction h generalizing recorded with
  | nil w => rw [List.append_nil]; rfl
  | passed hcheck _ ih =>
    unfold Caller.checkAll
    rw [hcheck]
    dsimp only
    rw [Call.withLedger_enter, ih, List.append_assoc]
    rfl
  | failed hstage hcheck _ ih =>
    unfold Caller.checkAll
    rw [hcheck]
    cases stage with
    | precondition => exact absurd rfl hstage
    | extraction =>
      dsimp only
      rw [Call.withLedger_enter, ih, List.append_assoc]
      rfl
    | assertion =>
      dsimp only
      rw [Call.withLedger_enter, ih, List.append_assoc]
      rfl

/-- What keeps a script from the transport: a rule without a behavior, a stop that is seen before
the request goes out, a request that cannot be built, or a precondition that fails or gives no
verdict. -/
inductive Withheld (c : Caller σ) (s : ResolvedScript) (w : World σ) : Prop where
  | misconfigured {e : ConfigurationError} (hvalid : c.registry.validate s = .error e)
  | stoppedAtStart (hstop : (w.poll c.services).stopped = true)
  | unbuilt {e : CallError} {w₁ : World σ}
      (hbuild : c.build s (w.poll c.services) = (.error e, w₁))
  | preconditionEnds {request : Request} {built w₁ : World σ} {fin : StageEnd} {call : Call}
      (hbuild : c.build s (w.poll c.services) = (.ok request, built))
      (hchecks : c.checkAll .precondition s (some request) none s.layer.preconditions
        (Call.fresh s.name) built = (fin, call, w₁))
      (hfin : fin ≠ .completed)
  | stoppedBeforeSending {request : Request} {built w₁ : World σ} {fin : StageEnd} {call : Call}
      (hbuild : c.build s (w.poll c.services) = (.ok request, built))
      (hchecks : c.checkAll .precondition s (some request) none s.layer.preconditions
        (Call.fresh s.name) built = (fin, call, w₁))
      (hstop : (w₁.poll c.services).stopped = true)

theorem Sends.not_withheld {request : Request} {entries : List LedgerEntry}
    (h : c.Sends s w request entries w₁) : ¬ c.Withheld s w := by
  obtain ⟨⟨hvalid, hgoing, hbuild⟩, hran, hsending⟩ := h
  have hcompleted := hran.checkAll (Call.fresh s.name) []
  rw [Call.fresh_withLedger_nil] at hcompleted
  intro hwithheld
  -- each reason denies one of the steps that led to the request
  cases hwithheld with
  | misconfigured hvalid' => cases hvalid.symm.trans hvalid'
  | stoppedAtStart hstop => cases hgoing.symm.trans hstop
  | unbuilt hbuild' => cases hbuild.symm.trans hbuild'
  | preconditionEnds hbuild' hchecks hfin =>
    cases hbuild.symm.trans hbuild'
    cases hcompleted.symm.trans hchecks
    exact hfin rfl
  | stoppedBeforeSending hbuild' hchecks hstop =>
    cases hbuild.symm.trans hbuild'
    cases hcompleted.symm.trans hchecks
    cases hsending.symm.trans hstop

/-- A call that does not come to the moment of sending sends nothing and says so. -/
theorem sends_nothing_of_not_sends
    (h : ∀ request entries w₁, ¬ c.Sends s w request entries w₁) :
    (c.run s w).1.Transmits [] ∧ c.Exchanges w [] (c.run s w).2 := by
  have hcarries := (c.run_ends s w).carries c.quiet_exchanges
  cases hcarries with
  | nothing hsent hresponse hquiet => exact ⟨.nothing hsent hresponse, hquiet⟩
  | request hsends _ _ _ _ _ => exact absurd hsends (h _ _ _)

/-- **A script that is withheld never reaches the transport.** -/
theorem Withheld.sends_nothing (h : c.Withheld s w) :
    (c.run s w).1.Transmits [] ∧ c.Exchanges w [] (c.run s w).2 :=
  sends_nothing_of_not_sends fun _ _ _ hsends => hsends.not_withheld h

end Caller

/-! ## A transport in memory -/

/-- The state of a transport that answers from a queue and keeps what passed. -/
structure Replay where
  replies : List (Except TransportError Response)
  exchanges : List Exchange

namespace Replay

/-- Takes the next answer. Once the queue is empty, all is well. -/
def send (request : Request) (host : Replay) : Reply Replay (Except TransportError Response) :=
  match host.replies with
  | [] => .pure (.ok .ok) ⟨[], host.exchanges ++ [⟨request, .ok .ok⟩]⟩
  | reply :: rest => .pure reply ⟨rest, host.exchanges ++ [⟨request, reply⟩]⟩

/-- Services with this transport, without an evaluator, and with nobody who asks for a stop. -/
def services : Services Replay where
  send := send
  evaluator := none
  glance := .pure ()

/-- Runs scripts with the standard behaviors over this transport. -/
def caller : Caller Replay :=
  ⟨.standard, services, none, none⟩

/-- **The exchanges are a record.** -/
theorem recorder {c : Caller Replay} (hregistry : c.registry = .standard)
    (hservices : c.services = services) : c.Recorder Replay.exchanges := by
  refine Caller.recorder_of_standard hregistry ?_ ?_ ?_
  · intro request host
    rw [hservices]
    show (send request host).host.exchanges =
      host.exchanges ++ [⟨request, (send request host).value⟩]
    unfold send
    cases host.replies with
    | nil => rfl
    | cons reply rest => rfl
  · intro host
    rw [hservices]
    rfl
  · intro evaluate hevaluate
    rw [hservices] at hevaluate
    cases hevaluate

end Replay

end RestSuite
