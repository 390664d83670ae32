import RestSuite.Behavior.Basic
import RestSuite.Pattern.Read

/-!
# The standard assertions

Each reads its configuration first, then what it needs of the call. All but one are functions of the
rule and the call; `eval` asks the host's evaluator.
-/

namespace RestSuite

namespace Assertion

/-- A check that needs no host. -/
abbrev Check := Rule → Scene → Except RuleError Verdict

/-- A check as an assertion. -/
def ofCheck {σ : Type} (check : Check) : Assertion σ :=
  fun rule scene _ host => .pure (check rule scene) host

/-- A verdict with the message for the case that the condition does not hold. -/
def verdict (holds : Bool) (message : String) : Verdict :=
  if holds then .pass else .fail message

/-- The pattern of a rule, which has to take a text as a whole. -/
def anchored (rule : Rule) (text : String) : Except RuleError Pattern :=
  (Pattern.anchored text).mapError fun e =>
    rule.malformed s!"invalid pattern '{text}': {e.message}"

/-! ## Status -/

/-- The natural numbers of an array. -/
def naturals (rule : Rule) (items : List Json) : Except RuleError (List Nat) :=
  items.mapM fun item =>
    match item.natural? with
    | some n => .ok n
    | none => .error (rule.malformed "expected an array of numbers")

/-- The status is the number, matches the pattern or is in the array. -/
def status : Check := fun rule scene => do
  let response ← scene.getResponse
  let holds ←
    match rule.config with
    | .number expected => .ok (expected.natural? == some response.status)
    | .string text => do
      let text ← scene.expand text
      let pattern ← anchored rule text
      .ok (pattern.isMatch (toString response.status))
    | .array codes => do
      let allowed ← naturals rule codes
      .ok (allowed.contains response.status)
    | other =>
      .error (rule.malformed s!"expected a number, pattern or array, found {other.text}")
  .ok (verdict holds s!"status {response.status} does not match {rule.config.text}")

/-! ## Headers -/

/-- Every header is there and its value matches. The first that does not decides. -/
def checkHeaders (rule : Rule) (scene : Scene) (response : Response) :
    List (String × Json) → Except RuleError Verdict
  | [] => .ok .pass
  | (name, .string text) :: rest => do
    let text ← scene.expand text
    match response.header? name with
    | none => .ok (.fail s!"response has no '{name}' header")
    | some value =>
      let pattern ← anchored rule text
      if pattern.isMatch value then checkHeaders rule scene response rest
      else .ok (.fail s!"header '{name}' value '{value}' does not match '{text}'")
  | (name, _) :: _ => .error (rule.malformed s!"pattern for '{name}' must be a string")

/-- The headers of the response match. -/
def headers : Check := fun rule scene =>
  match rule.config with
  | .object expected => do
    let response ← scene.getResponse
    checkHeaders rule scene response expected
  | _ => .error (rule.malformed "expected an object")

/-! ## Bindings -/

/-- The strings of an array. -/
def strings (items : List Json) : Option (List String) :=
  items.mapM Json.text?

/-- All names are bound. -/
def bound : Check := fun rule scene => do
  let names ←
    match rule.config with
    | .string name => .ok [name]
    | .array items =>
      match strings items with
      | some names => .ok names
      | none => .error (rule.malformed "expected an array of names")
    | _ => .error (rule.malformed "expected a name or array of names")
  let missing := names.filter fun name => !OrderedMap.contains scene.scope.bindings name
  .ok (verdict missing.isEmpty ("not bound: " ++ String.intercalate ", " missing))

/-! ## Equality -/

/-- A text is expanded and read as JSON where it can be; any other value stands for itself. -/
def operand (scene : Scene) : Json → Except RuleError Json
  | .string text => do
    let text ← scene.expand text
    match Json.parse text with
    | .ok value => .ok value
    | .error _ => .ok (.string text)
  | other => .ok other

/-- Two numbers are no further apart than a third. -/
def near (epsilon a b : Float) : Bool :=
  (a - b).abs ≤ epsilon

/-- Two values are equal, or two numbers close to each other. -/
def equal : Check := fun rule scene => do
  let (left, right, epsilon) ←
    match rule.config with
    | .array [left, right] => .ok (left, right, none)
    | .array [left, right, epsilon] =>
      match epsilon.float? with
      | some x => .ok (left, right, some x)
      | none => .error (rule.malformed "epsilon must be a number")
    | _ => .error (rule.malformed "expected [expected, actual]")
  let left ← operand scene left
  let right ← operand scene right
  let holds ←
    match epsilon with
    | none => .ok (left.same right)
    | some epsilon =>
      match left.float?, right.float? with
      | some a, some b => .ok (near epsilon a b)
      | _, _ => .error (rule.malformed "epsilon comparison needs numeric operands")
  .ok (verdict holds s!"{left.text} != {right.text}")

/-! ## Bodies -/

/-- The body of the response is the expected JSON value. -/
def json : Check := fun rule scene => do
  let expected ←
    match rule.config with
    | .string text => do
      let text ← scene.expand text
      (Json.parse text).mapError fun e =>
        rule.malformed s!"expected value is not JSON: {e.message}"
    | .object members => .ok (.object members)
    | .array items => .ok (.array items)
    | other =>
      .error (rule.malformed s!"expected an object, array or @file, found {other.text}")
  let actual ← scene.responseJson
  .ok (verdict (actual.same expected) s!"response body {actual.text} != {expected.text}")

/-- The body of the response is the expected text. -/
def text : Check := fun rule scene => do
  let raw ←
    match rule.config with
    | .string raw => .ok raw
    | .array lines =>
      match strings lines with
      | some lines => .ok (String.intercalate "\n" lines)
      | none => .error (rule.malformed "expected an array of strings")
    | _ => .error (rule.malformed "expected a string or array of lines")
  let expected ← scene.expand raw
  let actual ← scene.responseText
  let source := (redirectPath? raw).getD "inline text"
  .ok (verdict (actual == expected)
    (s!"response body does not match {source} " ++
      s!"({actual.utf8ByteSize} bytes vs {expected.utf8ByteSize} bytes)"))

/-! ## Expressions -/

/-- The evaluator says that the expression is true. -/
def eval {σ : Type} : Assertion σ := fun rule scene evaluator host =>
  match rule.config with
  | .string raw =>
    match evaluator with
    | none => .pure (.error (.configuration (.missingEvaluator raw))) host
    | some evaluate =>
      match scene.expand raw with
      | .error e => .pure (.error e) host
      | .ok expression =>
        (evaluate expression scene.scope.bindings host).map fun
          | .error e => .error (.evaluation e)
          | .ok (.bool true) => .ok .pass
          | .ok value => .ok (.fail s!"'{expression}' evaluated to {value.text}")
  | _ => .pure (.error (rule.malformed "expected an expression string")) host

/-- The assertions of every run, by key. -/
def standard {σ : Type} : OrderedMap (Assertion σ) := [
  ("status", ofCheck status),
  ("headers", ofCheck headers),
  ("bound", ofCheck bound),
  ("equal", ofCheck equal),
  ("json", ofCheck json),
  ("text", ofCheck text),
  ("eval", eval)]

end Assertion

end RestSuite
