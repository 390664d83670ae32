import RestSuite.Bindings

/-!
# Evaluation of expressions

Scripts may hold expressions. Their language is the host's: an evaluator gets an expression and
the bindings and answers with a value. Whatever runs on the host's side may ask for the run to be
stopped and may keep a state of its own, which is passed along.
-/

namespace RestSuite

/-- What the host answers with. -/
structure Reply (σ α : Type) where
  value : α
  /-- The run is to be stopped. -/
  stop : Bool
  /-- The state of the host from now on. -/
  host : σ

namespace Reply

variable {σ α β : Type}

/-- An answer that leaves the host as it is. -/
def pure (value : α) (host : σ) : Reply σ α := ⟨value, false, host⟩

/-- Changes the value of an answer. -/
def map (f : α → β) (r : Reply σ α) : Reply σ β := ⟨f r.value, r.stop, r.host⟩

end Reply

/-- An expression could not be evaluated. -/
structure EvaluationError where
  expression : String
  reason : String
  deriving DecidableEq, Repr

/-- The wording of an evaluation error. -/
def EvaluationError.message (e : EvaluationError) : String :=
  s!"cannot evaluate '{e.expression}': {e.reason}"

/-- Evaluates an expression under bindings. -/
abbrev Evaluator (σ : Type) := String → Bindings → σ → Reply σ (Except EvaluationError Json)

end RestSuite
