import RestSuite.Evaluation
import RestSuite.Script.Resolved

/-!
# Behaviors

The key of a rule selects a behavior. An assertion looks at the call and gives a verdict. An
extractor takes values from the call: it answers with changes to the bindings, which the caller
makes, and with the disk as it leaves it. Neither can touch anything else of a run.
-/

namespace RestSuite

/-- What an assertion says. -/
inductive Verdict where
  | pass
  | fail (message : String)
  deriving DecidableEq, Repr

/-- Why a rule could not do its work. -/
inductive RuleError where
  | binding (e : BindingError)
  | configuration (e : ConfigurationError)
  | evaluation (e : EvaluationError)
  /-- The rule ran, but the call did not have what it needs. -/
  | failed (message : String)
  deriving DecidableEq, Repr

/-- The wording of a rule error. -/
def RuleError.message : RuleError → String
  | .binding e => e.message
  | .configuration e => e.message
  | .evaluation e => e.message
  | .failed message => message

/-- The rule is not written as its key asks for. -/
def Rule.malformed (r : Rule) (reason : String) : RuleError :=
  .configuration (.malformedRule r.stage s!"'{r.key}': {reason}")

/-- What a behavior sees of a call. -/
structure Scene where
  script : ResolvedScript
  request : Option Request
  response : Option Response
  scope : Scope

namespace Scene

/-- Expands a text. -/
def expand (s : Scene) (text : String) : Except RuleError String :=
  (s.scope.expand text).mapError .binding

/-- The response, which has to be there. -/
def getResponse (s : Scene) : Except RuleError Response :=
  match s.response with
  | some response => .ok response
  | none => .error (.failed "no response is available")

/-- The body of the response as JSON. -/
def responseJson (s : Scene) : Except RuleError Json := do
  let response ← s.getResponse
  response.json.mapError fun e => .failed s!"response body is not JSON: {e.message}"

/-- The body of the response as text. -/
def responseText (s : Scene) : Except RuleError String := do
  let response ← s.getResponse
  match response.text? with
  | some text => .ok text
  | none => .error (.failed "response body is not valid UTF-8")

end Scene

/-- Checks a call. -/
abbrev Assertion (σ : Type) :=
  Rule → Scene → Option (Evaluator σ) → σ → Reply σ (Except RuleError Verdict)

/-- A change to the bindings. -/
inductive Edit where
  | bind (name : String) (value : Json)
  | unbind (name : String)

/-- What an extractor did. What it bound before it failed stays bound. -/
structure Extraction where
  edits : List Edit
  disk : Disk
  result : Except RuleError Unit

/-- Takes values from a call. -/
abbrev Extractor (σ : Type) :=
  Rule → Scene → Option (Evaluator σ) → σ → Reply σ Extraction

end RestSuite
