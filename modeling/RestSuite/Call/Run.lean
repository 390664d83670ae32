import RestSuite.Call.Check

/-!
# Running a call

A call goes through its stages: built, sent, received, extracted, asserted. Between stages the flag
that stops the run is looked at. However a call ends, every precondition and assertion is in its
ledger once.
-/

namespace RestSuite.Caller

variable {σ : Type}

/-- Ends a call in an error and tells the operator. -/
def fail (call : Call) (e : CallError) (w : World σ) : Call × World σ :=
  (call.fail e, w.note (.callFailed call.script e.message))

/-- Ends a call in an error and skips the rules that have not been run. -/
def abort (call : Call) (pending : List Rule) (reason : String) (e : CallError) (w : World σ) :
    Call × World σ :=
  fail (call.skip pending reason) e w

/-- Ends a call because the run was stopped. -/
def cancel (call : Call) (pending : List Rule) : Call :=
  { call.skip pending "run cancelled" with cancelled := true, state := .cancelled }

/-- The last stage: the assertions. -/
def assertStage (c : Caller σ) (s : ResolvedScript) (request : Request) (response : Response)
    (call : Call) (w : World σ) : Call × World σ :=
  match c.checkAll .assertion s (some request) (some response) s.layer.assertions call w with
  | (.halted e, call, w) => fail call e w
  | (_, call, w) => ({ call with state := .asserted }, w)

/-- The stage before the assertions: the extractors. -/
def extractStage (c : Caller σ) (s : ResolvedScript) (request : Request) (response : Response)
    (call : Call) (w : World σ) : Call × World σ :=
  match c.takeAll s (some request) (some response) s.layer.extractors [] w with
  | (.error e, messages, w) =>
    abort { call with extractionErrors := messages } s.layer.assertions "extraction failed" e w
  | (.ok (), messages, w) =>
    let call := { call with extractionErrors := messages, state := .extracted }
    let w := w.poll c.services
    if w.stopped then (cancel call s.layer.assertions, w)
    else c.assertStage s request response call w

/-- Sends the request and goes on with what comes back. -/
def sendStage (c : Caller σ) (s : ResolvedScript) (request : Request) (call : Call)
    (w : World σ) : Call × World σ :=
  let reply := c.services.send request w.host
  let w := { w.settle reply with sent := w.sent ++ [request] }
  let call := { call with sent := true, state := .sent }
  match reply.value with
  | .error e => abort call s.layer.assertions "request failed" (.transport e) w
  | .ok response =>
    let call := { call with response := some response, state := .received }
    let w := w.poll c.services
    if w.stopped then (cancel call s.layer.assertions, w)
    else c.extractStage s request response call w

/-- The stage before sending: the preconditions. -/
def preconditionStage (c : Caller σ) (s : ResolvedScript) (request : Request) (call : Call)
    (w : World σ) : Call × World σ :=
  match c.checkAll .precondition s (some request) none s.layer.preconditions call w with
  | (.refused, call, w) =>
    ({ call.skip s.layer.assertions "precondition failed" with
      request := some request, state := .failed }, w)
  | (.halted e, call, w) =>
    abort { call with request := some request } s.layer.assertions "precondition could not run" e w
  | (.completed, call, w) =>
    let call := { call with request := some request }
    let w := w.poll c.services
    if w.stopped then (cancel call s.layer.assertions, w) else c.sendStage s request call w

/-- Runs a script from its first stage to its end. -/
def run (c : Caller σ) (s : ResolvedScript) (w : World σ) : Call × World σ :=
  let call := Call.fresh s.name
  let checks := s.layer.preconditions ++ s.layer.assertions
  match c.registry.validate s with
  | .error e => abort call checks "script is misconfigured" (.configuration e) w
  | .ok () =>
    let w := w.poll c.services
    if w.stopped then (cancel call checks, w)
    else
      match c.build s w with
      | (.error e, w) => abort call checks "request could not be built" e w
      | (.ok request, w) => c.preconditionStage s request call w

end RestSuite.Caller
