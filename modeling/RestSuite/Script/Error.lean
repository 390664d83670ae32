import RestSuite.Expansion
import RestSuite.Script.Stage

/-!
# Errors in scripts

Why a script cannot be used: it is malformed, or it refers to something that does not exist.
-/

namespace RestSuite

/-- A fault in a script, in one of its templates or in the set of rules it is run with. -/
inductive ConfigurationError where
  | notAnObject (kind : String)
  | malformedField (field reason : String)
  | malformedMethod (method found : String)
  | missingMethod (script : String)
  | noSuchTemplate (name : String)
  /-- The names from the repeated one down to the script. -/
  | cyclicTemplate (names : List String)
  | malformedRule (stage : Stage) (reason : String)
  | unknownRule (stage : Stage) (key : String)
  | duplicateRule (stage : Stage) (key : String)
  | missingEvaluator (expression : String)
  | invalidUri (uri reason : String)
  deriving DecidableEq, Repr

/-- The wording of a configuration error. -/
def ConfigurationError.message : ConfigurationError → String
  | .notAnObject kind => s!"script must be a JSON object, found {kind}"
  | .malformedField field reason => s!"invalid '{field}' value: {reason}"
  | .malformedMethod method found =>
    s!"URI for method {method} must be a string; found {found} instead"
  | .missingMethod script => s!"script '{script}' does not define an HTTP method"
  | .noSuchTemplate name => s!"no such template {name}"
  | .cyclicTemplate names => "template cycle: " ++ String.intercalate " -> " names
  | .malformedRule stage reason => s!"invalid {stage.sectionKey} rule: {reason}"
  | .unknownRule stage key => s!"no {stage.sectionKey} behavior registered for '{key}'"
  | .duplicateRule stage key =>
    s!"a {stage.sectionKey} behavior is already registered for '{key}'"
  | .missingEvaluator expression => s!"no expression evaluator configured for '{expression}'"
  | .invalidUri uri reason => s!"invalid URI '{uri}': {reason}"

/-- Why a script could not be combined with its templates. -/
inductive ResolveError where
  | configuration (e : ConfigurationError)
  | binding (e : BindingError)
  deriving DecidableEq, Repr

/-- The wording of a resolve error. -/
def ResolveError.message : ResolveError → String
  | .configuration e => e.message
  | .binding e => e.message

end RestSuite
