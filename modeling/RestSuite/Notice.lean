import RestSuite.Http.Method

/-!
# Notices

What a run tells its operator besides its results: warnings about things that were passed over, and
the errors that ended calls.
-/

namespace RestSuite

/-- A line for the operator. -/
inductive Notice where
  /-- A script gives a second method, which does not count. -/
  | repeatedMethod (script : String) (method first : Method) (uri : String)
  /-- An extractor failed and the call goes on. -/
  | extractorFailed (key script message : String)
  /-- A call ended in an error. -/
  | callFailed (script message : String)
  /-- A run stopped at the first script that did not succeed. -/
  | stoppedEarly
  /-- A base URL that cannot be used. -/
  | ignoredBaseUrl (url reason : String)
  /-- Settings that cannot be read. -/
  | unreadableSettings (key reason : String)
  /-- Settings that are not valid. -/
  | invalidSettings (key reason : String)
  /-- A change that left the settings invalid. -/
  | invalidUpdate (reason : String)
  deriving DecidableEq, Repr

namespace Notice

/-- The wording of a notice. -/
def message : Notice → String
  | .repeatedMethod script method first uri =>
    s!"script '{script}': HTTP method {method.name} found but method already defined as " ++
      s!"{first.name} {uri}"
  | .extractorFailed key script message => s!"extractor '{key}' in '{script}' failed: {message}"
  | .callFailed script message => s!"'{script}' failed: {message}"
  | .stoppedEarly => "stopping after the first unsuccessful script (failFast)"
  | .ignoredBaseUrl url reason => s!"ignoring baseUrl '{url}': {reason}"
  | .unreadableSettings key reason =>
    s!"failed to parse {key} settings: {reason}. Using defaults."
  | .invalidSettings key reason => s!"invalid {key} settings: {reason}. Using defaults."
  | .invalidUpdate reason => s!"configuration validation failed after update: {reason}"

/-- The word for the weight of a notice. -/
def level : Notice → String
  | .callFailed _ _ => "ERROR"
  | _ => "WARN"

/-- A notice as one line. -/
def line (n : Notice) : String :=
  n.level ++ " " ++ n.message

end Notice

end RestSuite
