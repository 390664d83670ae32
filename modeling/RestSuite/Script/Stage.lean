/-!
# Stages of a call

The three sections of a script that hold rules.
-/

namespace RestSuite

/-- When a rule runs. -/
inductive Stage where
  /-- Before the request is sent. -/
  | precondition
  /-- On the response, to bind values from it. -/
  | extraction
  /-- On the response, to check it. -/
  | assertion
  deriving DecidableEq, Repr

/-- The script field that holds the rules of a stage. -/
def Stage.sectionKey : Stage → String
  | .precondition => "preconditions"
  | .extraction => "bind"
  | .assertion => "assert"

end RestSuite
