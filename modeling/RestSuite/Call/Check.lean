import RestSuite.Call.Build

/-!
# Running the rules of a call

Rules run in document order. Checks enter the ledger; a check that cannot give a verdict halts its
stage, and so does the first precondition that fails. Extractors change the bindings; a plain
failure of one is only noted unless the rule asks for more.
-/

namespace RestSuite

/-- What a check came to. -/
inductive CheckResult where
  | passed
  | failed (message : String)
  /-- No verdict: the call ends. -/
  | halted (e : CallError)

namespace CheckResult

/-- The result of a check that could not give a verdict. Only a plain failure counts as one. -/
def ofError : RuleError → CheckResult
  | .failed message => .failed message
  | .binding e => .halted (.binding e)
  | .configuration e => .halted (.configuration e)
  | .evaluation e => .halted (.evaluation e)

/-- The result of a check. -/
def ofVerdict : Except RuleError Verdict → CheckResult
  | .ok .pass => .passed
  | .ok (.fail message) => .failed message
  | .error e => ofError e

end CheckResult

/-- How a stage of checks ended. -/
inductive StageEnd where
  /-- All rules were run. -/
  | completed
  /-- A precondition failed. -/
  | refused
  /-- A rule gave no verdict. -/
  | halted (e : CallError)

namespace Caller

variable {σ : Type}

/-- What behaviors see. -/
def scene (c : Caller σ) (s : ResolvedScript) (request : Option Request)
    (response : Option Response) (w : World σ) : Scene :=
  ⟨s, request, response, c.scope w⟩

/-! ## Checks -/

/-- Runs one check. -/
def check (c : Caller σ) (stage : Stage) (rule : Rule) (scene : Scene) (w : World σ) :
    CheckResult × World σ :=
  match c.registry.assertion stage rule.key with
  | .error e => (.halted (.configuration e), w)
  | .ok assertion =>
    let reply := assertion rule scene c.services.evaluator w.host
    (.ofVerdict reply.value, w.settle reply)

/-- Runs checks in order. -/
def checkAll (c : Caller σ) (stage : Stage) (s : ResolvedScript) (request : Option Request)
    (response : Option Response) : List Rule → Call → World σ → StageEnd × Call × World σ
  | [], call, w => (.completed, call, w)
  | rule :: rest, call, w =>
    match c.check stage rule (c.scene s request response w) w with
    | (.passed, w) =>
      c.checkAll stage s request response rest (call.enter (rule.entry .passed none)) w
    | (.failed message, w) =>
      let call := call.enter (rule.entry .failed (some message))
      match stage with
      | .precondition => (.refused, call.skip rest "precondition failed", w)
      | _ => c.checkAll stage s request response rest call w
    | (.halted e, w) =>
      let call := call.enter (rule.entry .failed (some e.message))
      (.halted e, call.skip rest "stage halted", w)

/-! ## Extraction -/

/-- Runs one extractor and makes the changes it asks for. -/
def takeOne (c : Caller σ) (rule : Rule) (scene : Scene) (w : World σ) :
    Except RuleError Unit × World σ :=
  match c.registry.extractor rule.key with
  | .error e => (.error (.configuration e), w)
  | .ok extractor =>
    let reply := extractor rule scene c.services.evaluator w.host
    (reply.value.result, (w.settle reply).apply reply.value)

/-- What the failure of an extractor means for the call: a message to keep, or its end. -/
def failure (rule : Rule) : RuleError → Except CallError String
  | .failed message =>
    if rule.required then .error (.extraction rule.key message) else .ok message
  | .binding e => .error (.binding e)
  | .configuration e => .error (.configuration e)
  | .evaluation e => .error (.evaluation e)

/-- Runs extractors in order; the messages of plain failures are collected. -/
def takeAll (c : Caller σ) (s : ResolvedScript) (request : Option Request)
    (response : Option Response) :
    List Rule → List String → World σ → Except CallError Unit × List String × World σ
  | [], messages, w => (.ok (), messages, w)
  | rule :: rest, messages, w =>
    match c.takeOne rule (c.scene s request response w) w with
    | (.ok (), w) => c.takeAll s request response rest messages w
    | (.error e, w) =>
      match failure rule e with
      | .error e => (.error e, messages, w)
      | .ok message =>
        c.takeAll s request response rest (messages ++ [s!"{rule.key}: {message}"])
          (w.note (.extractorFailed rule.key s.name message))

end Caller

end RestSuite
