import RestSuite.Behavior.Assertions
import RestSuite.Behavior.Extractors

/-!
# Registries of behaviors

A registry finds the behavior for the key of a rule. Extractors and assertions have separate keys.
No key is registered twice.
-/

namespace RestSuite

/-- What a key selects. -/
inductive Behavior (σ : Type) where
  | extractor (x : Extractor σ)
  | assertion (a : Assertion σ)

/-- The behaviors of a run, by key. -/
structure Registry (σ : Type) where
  extractors : OrderedMap (Extractor σ)
  assertions : OrderedMap (Assertion σ)

namespace Registry

variable {σ : Type}

/-- A registry without behaviors. -/
def empty : Registry σ := ⟨[], []⟩

/-- The registry of the standard behaviors. -/
def standard : Registry σ := ⟨Extractor.standard, Assertion.standard⟩

/-- Adds an extractor under a new key. -/
def addExtractor (r : Registry σ) (key : String) (x : Extractor σ) :
    Except ConfigurationError (Registry σ) :=
  if OrderedMap.contains r.extractors key then .error (.duplicateRule .extraction key)
  else .ok { r with extractors := OrderedMap.put r.extractors key x }

/-- Adds an assertion under a new key. -/
def addAssertion (r : Registry σ) (key : String) (a : Assertion σ) :
    Except ConfigurationError (Registry σ) :=
  if OrderedMap.contains r.assertions key then .error (.duplicateRule .assertion key)
  else .ok { r with assertions := OrderedMap.put r.assertions key a }

/-- The extractor of a key. -/
def extractor (r : Registry σ) (key : String) : Except ConfigurationError (Extractor σ) :=
  match OrderedMap.get? r.extractors key with
  | some x => .ok x
  | none => .error (.unknownRule .extraction key)

/-- The assertion of a key, for a stage of checks. -/
def assertion (r : Registry σ) (stage : Stage) (key : String) :
    Except ConfigurationError (Assertion σ) :=
  match OrderedMap.get? r.assertions key with
  | some a => .ok a
  | none => .error (.unknownRule stage key)

/-- The behavior of a key, for a stage. -/
def lookup (r : Registry σ) (stage : Stage) (key : String) :
    Except ConfigurationError (Behavior σ) :=
  match stage with
  | .extraction => (r.extractor key).map .extractor
  | .precondition | .assertion => (r.assertion stage key).map .assertion

/-- The key has a behavior for the stage. -/
def knows (r : Registry σ) (stage : Stage) (key : String) : Bool :=
  match stage with
  | .extraction => OrderedMap.contains r.extractors key
  | .precondition | .assertion => OrderedMap.contains r.assertions key

/-- The first rule without a behavior, among the preconditions, the extractors and the
assertions in this order. -/
def firstUnknown? (r : Registry σ) (s : ResolvedScript) : Option ConfigurationError :=
  [Stage.precondition, .extraction, .assertion].findSome? fun stage =>
    (s.rules stage).findSome? fun rule =>
      if r.knows stage rule.key then none else some (.unknownRule stage rule.key)

/-- Every rule of a script has a behavior. -/
def validate (r : Registry σ) (s : ResolvedScript) : Except ConfigurationError Unit :=
  match r.firstUnknown? s with
  | some e => .error e
  | none => .ok ()

/-- The keys of extractors, sorted. -/
def extractorKeys (r : Registry σ) : List String :=
  (OrderedMap.keys r.extractors).mergeSort fun a b => decide (a ≤ b)

/-- The keys of assertions, sorted. -/
def assertionKeys (r : Registry σ) : List String :=
  (OrderedMap.keys r.assertions).mergeSort fun a b => decide (a ≤ b)

end Registry

end RestSuite
