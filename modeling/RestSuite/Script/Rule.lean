import RestSuite.Script.Error

/-!
# Rules

A rule is an object with one key, which selects a behavior, and the configuration of that behavior
as its value. A flag beside it makes a failure of an extractor fatal. A bare string is short for a
rule that evaluates it as an expression.
-/

namespace RestSuite

/-- One rule of a script. -/
structure Rule where
  stage : Stage
  key : String
  config : Json
  /-- A failure of this extractor ends the call. -/
  required : Bool
  /-- The name of the script or template that declares the rule. -/
  source : String

namespace Rule

/-- The key of a rule that is a bare string. -/
def expressionKey : String := "eval"

/-- The member that is a flag and not the rule's key. -/
def requiredKey : String := "required"

/-- Reads a rule. -/
def ofJson (stage : Stage) (node : Json) (source : String) : Except ConfigurationError Rule :=
  match node with
  | .string expression => .ok ⟨stage, expressionKey, .string expression, false, source⟩
  | .object members => do
    let required ←
      match OrderedMap.get? members requiredKey with
      | none => .ok false
      | some (.bool flag) => .ok flag
      | some other =>
        .error (.malformedRule stage s!"'required' must be a boolean, found {other.text}")
    match members.filter (fun member => member.1 != requiredKey) with
    | [] => .error (.malformedRule stage "rule object has no key")
    | [(key, config)] => .ok ⟨stage, key, config, required, source⟩
    | _ =>
      .error (.malformedRule stage s!"rule object must have exactly one key: {node.text}")
  | other => .error (.malformedRule stage s!"expected an object or string, found {other.text}")

end Rule

end RestSuite
