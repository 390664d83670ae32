import RestSuite.Behavior.Basic

/-!
# Records of calls

What is kept of a call once it is over: how far it came, what was sent and received, one ledger
entry for each precondition and assertion, and the error that ended it. The identifier that is drawn
for a call and the time at which it began are left out: nothing reads them.
-/

namespace RestSuite

/-- How far a call came, or how it ended. -/
inductive CallState where
  | built
  | sent
  | received
  | extracted
  | asserted
  /-- Asserted, and entered into the history of a run. -/
  | reported
  | failed
  | cancelled
  deriving DecidableEq, Repr

/-- What became of a rule. -/
inductive Outcome where
  | passed
  | failed
  | skipped
  deriving DecidableEq, Repr

/-- A ledger entry: a precondition or assertion and what became of it. -/
structure LedgerEntry where
  stage : Stage
  key : String
  config : Json
  outcome : Outcome
  /-- Why the rule failed or was skipped. -/
  message : Option String

/-- The entry of a rule. -/
def Rule.entry (r : Rule) (outcome : Outcome) (message : Option String) : LedgerEntry :=
  ⟨r.stage, r.key, r.config, outcome, message⟩

/-- Why a call ended early. -/
inductive CallError where
  | configuration (e : ConfigurationError)
  | binding (e : BindingError)
  | transport (e : TransportError)
  | evaluation (e : EvaluationError)
  /-- An extractor that was marked as required failed. -/
  | extraction (key message : String)
  deriving DecidableEq, Repr

namespace CallError

/-- The wording of a call error. -/
def message : CallError → String
  | .configuration e => e.message
  | .binding e => e.message
  | .transport e => e.message
  | .evaluation e => e.message
  | .extraction key message => s!"required extractor '{key}' failed: {message}"

/-- An error in combining a script with its templates, as the error of its call. -/
def ofResolve : ResolveError → CallError
  | .configuration e => .configuration e
  | .binding e => .binding e

end CallError

/-- The record of a call. -/
structure Call where
  script : String
  request : Option Request
  response : Option Response
  /-- The ledger: the entries of rules that passed, failed and were skipped, each in order. -/
  passed : List LedgerEntry
  failed : List LedgerEntry
  skipped : List LedgerEntry
  /-- The messages of extractors that failed without ending the call. -/
  extractionErrors : List String
  error : Option CallError
  state : CallState
  cancelled : Bool
  /-- The request was handed to the transport. -/
  sent : Bool

namespace Call

/-- A call of which nothing has been done. -/
def fresh (script : String) : Call :=
  ⟨script, none, none, [], [], [], [], none, .built, false, false⟩

/-- Enters a rule into the ledger. -/
def enter (c : Call) (e : LedgerEntry) : Call :=
  match e.outcome with
  | .passed => { c with passed := c.passed ++ [e] }
  | .failed => { c with failed := c.failed ++ [e] }
  | .skipped => { c with skipped := c.skipped ++ [e] }

/-- Enters rules as skipped. -/
def skip (c : Call) (rules : List Rule) (reason : String) : Call :=
  { c with skipped := c.skipped ++ rules.map fun r => r.entry .skipped (some reason) }

/-- Ends the call in an error. -/
def fail (c : Call) (e : CallError) : Call :=
  { c with error := some e, state := .failed }

/-- A call that ended before anything was done. -/
def rejected (script : String) (e : CallError) : Call :=
  (fresh script).fail e

/-- The call as it is entered into a history: what was asserted is reported. -/
def reported (c : Call) : Call :=
  if c.state = .asserted then { c with state := .reported } else c

/-- Nothing went wrong. -/
def isSuccessful (c : Call) : Bool :=
  c.error.isNone && c.failed.isEmpty && !c.cancelled

end Call

end RestSuite
