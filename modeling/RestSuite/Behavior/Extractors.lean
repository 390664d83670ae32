import RestSuite.Behavior.Basic
import RestSuite.Json.Path
import RestSuite.Pattern.Read

/-!
# The standard extractors

Each binds values of the response, or writes the body to a file. Values are bound one after the
other, so what stands in front of a fault is bound all the same.
-/

namespace RestSuite

namespace Extractor

/-- An extractor that needs no host. -/
abbrev Taker := Rule → Scene → Extraction

/-- A function of rule and call as an extractor. -/
def ofTaker {σ : Type} (take : Taker) : Extractor σ :=
  fun rule scene _ host => .pure (take rule scene) host

/-- What was bound, one after the other, and the fault that ended it. -/
abbrev Taken := List (String × Json) × Except RuleError Unit

/-- Binds values and leaves the disk alone. -/
def binding (scene : Scene) (taken : Taken) : Extraction :=
  ⟨taken.1.map fun b => .bind b.1 b.2, scene.scope.disk, taken.2⟩

/-- Ends in an error that comes before anything is bound. -/
def orFail (scene : Scene) (x : Except RuleError Extraction) : Extraction :=
  match x with
  | .ok extraction => extraction
  | .error e => binding scene ([], .error e)

/-! ## The body as a whole -/

/-- The target of a rule: a name or a redirect. -/
def target (rule : Rule) : Except RuleError String :=
  match rule.config with
  | .string target => .ok target
  | _ => .error (rule.malformed "expected a variable name or @file")

/-- Writes a text to the file at a path. -/
def write (scene : Scene) (path content : String) : Except RuleError Extraction := do
  let path ← scene.expand path
  let full := Path.resolve path scene.scope.baseDirectory
  match scene.scope.disk.writeText full content with
  | .ok disk => .ok ⟨[], disk, .ok ()⟩
  | .error reason => .error (.failed s!"cannot write {full}: {reason.message}")

/-- Writes a text if the target is a redirect, else binds a value to the target. -/
def store (scene : Scene) (target content : String) (value : Json) :
    Except RuleError Extraction :=
  match redirectPath? target with
  | some path => write scene path content
  | none => do
    let name ← scene.expand target
    .ok (binding scene ([(name, value)], .ok ()))

/-- Takes the body as JSON. -/
def json : Taker := fun rule scene => orFail scene do
  let target ← target rule
  let body ← scene.responseJson
  store scene target body.prettyText body

/-- Takes the body as text. -/
def text : Taker := fun rule scene => orFail scene do
  let target ← target rule
  let body ← scene.responseText
  store scene target body (.string body)

/-! ## Groups of patterns -/

/-- The groups of a match, each with its name, up to the first that is not there. -/
def nameGroups (pattern : String) (found : Pattern.Captures) : Nat → List String → Taken
  | _, [] => ([], .ok ())
  | index, name :: rest =>
    match found.group? index with
    | none => ([], .error (.failed s!"pattern '{pattern}' has no group {index}"))
    | some value =>
      let (more, result) := nameGroups pattern found (index + 1) rest
      ((name, .string value) :: more, result)

/-- Binds the groups of a pattern in a text to names. -/
def takeGroups (rule : Rule) (text pattern : String) (names : List String) : Taken :=
  match Pattern.ofString pattern with
  | .error e => ([], .error (rule.malformed s!"invalid pattern: {e.message}"))
  | .ok compiled =>
    match compiled.captures? text with
    | none => ([], .error (.failed s!"'{text}' does not match pattern '{pattern}'"))
    | some found => nameGroups pattern found 1 names

/-- Reads a subject, a pattern and at least one name. -/
def groupSpec (rule : Rule) (parts : List Json) :
    Except RuleError (String × String × List String) :=
  match parts.mapM Json.text? with
  | some (subject :: pattern :: name :: names) => .ok (subject, pattern, name :: names)
  | _ => .error (rule.malformed "expected an array of strings [text, pattern, name...]")

/-- Matches a text and binds the groups. -/
def pattern : Taker := fun rule scene => orFail scene do
  match rule.config with
  | .array parts =>
    let (subject, pattern, names) ← groupSpec rule parts
    let subject ← scene.expand subject
    .ok (binding scene (takeGroups rule subject pattern names))
  | _ => .error (rule.malformed "expected [text, pattern, name...]")

/-! ## Members of the configuration -/

/-- Takes values for one member after the other, up to the first fault. -/
def takeEach (take : String → Json → Taken) : List (String × Json) → Taken
  | [] => ([], .ok ())
  | (name, spec) :: rest =>
    let (own, result) := take name spec
    match result with
    | .error e => (own, .error e)
    | .ok () =>
      let (more, result) := takeEach take rest
      (own ++ more, result)

/-- One value for a name, or a fault. -/
def takeOne (name : String) (value : Except RuleError Json) : Taken :=
  match value with
  | .ok value => ([(name, value)], .ok ())
  | .error e => ([], .error e)

/-- The value of a header, which has to be there. -/
def headerValue (response : Response) (name : String) : Except RuleError String :=
  match response.header? name with
  | some value => .ok value
  | none => .error (.failed s!"response has no '{name}' header")

/-- Takes a header, or the groups of a pattern in it. -/
def takeHeader (rule : Rule) (response : Response) (name : String) : Json → Taken
  | .string header => takeOne name ((headerValue response header).map .string)
  | .array parts =>
    match groupSpec rule parts with
    | .error e => ([], .error e)
    | .ok (header, pattern, names) =>
      match headerValue response header with
      | .error e => ([], .error e)
      | .ok value => takeGroups rule value pattern names
  | other =>
    ([], .error (rule.malformed
      s!"binding for '{name}' must be a string or array, found {other.text}"))

/-- Takes headers. -/
def headers : Taker := fun rule scene => orFail scene do
  match rule.config with
  | .object members =>
    let response ← scene.getResponse
    .ok (binding scene (takeEach (takeHeader rule response) members))
  | _ => .error (rule.malformed "expected an object")

/-- A scene in which some values have been bound. -/
def withBound (scene : Scene) (bound : List (String × Json)) : Scene :=
  let bindings := bound.foldl (fun b v => OrderedMap.put b v.1 v.2) scene.scope.bindings
  { scene with scope := { scene.scope with bindings := bindings } }

/-- The part of the body that a path leads to. -/
def partAt (rule : Rule) (scene : Scene) (body : Json) (name : String) :
    Json → Except RuleError Json
  | .string path => do
    let path ← scene.expand path
    (body.select path).mapError fun e => .failed s!"{path}: {e.message}"
  | _ => .error (rule.malformed s!"path for '{name}' must be a string")

/-- Takes parts of the body. A path may refer to what was bound before it. -/
def takeParts (rule : Rule) (body : Json) (scene : Scene) : List (String × Json) → Taken
  | [] => ([], .ok ())
  | (name, path) :: rest =>
    match partAt rule scene body name path with
    | .error e => ([], .error e)
    | .ok value =>
      let (more, result) := takeParts rule body (withBound scene [(name, value)]) rest
      ((name, value) :: more, result)

/-- Takes parts of the body by their paths. -/
def jsonPath : Taker := fun rule scene => orFail scene do
  match rule.config with
  | .object members =>
    let body ← scene.responseJson
    .ok (binding scene (takeParts rule body scene members))
  | _ => .error (rule.malformed "expected an object")

/-- The extractors of every run, by key. -/
def standard {σ : Type} : OrderedMap (Extractor σ) := [
  ("json", ofTaker json),
  ("text", ofTaker text),
  ("headers", ofTaker headers),
  ("jsonPath", ofTaker jsonPath),
  ("pattern", ofTaker pattern)]

end Extractor

end RestSuite
