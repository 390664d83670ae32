import RestSuite.Http.Message
import RestSuite.Notice
import RestSuite.Script.Rule

/-!
# Scripts

A script is a JSON object that declares one call: its method and URI, headers, variables, body and
rules. A script whose name ends in `.template` is a template: it is not run, other scripts inherit
from it. What a script itself declares is read here; inheritance is the subject of
`RestSuite.Script.Resolved`.
-/

namespace RestSuite

/-- A script document whose name and template field have been read. -/
structure Script where
  name : String
  /-- The template field as it is written. -/
  template : Option String
  fields : List (String × Json)

namespace Script

/-- The ending that marks a template. -/
def templateSuffix : String := ".template"

/-- The template of every script that names none itself, once it is defined. -/
def implicitTemplate : String := "implicit.template"

/-- The name of a script that gives itself none. It stands for the time at which the script is read,
so one text stands for all of these names. -/
def unnamed : String := "<timestamp>"

/-- The text ends in another. -/
def endsIn (s ending : String) : Bool :=
  ending.toList.isSuffixOf s.toList

/-- The name of a template: the ending is added where it is missing. -/
def templateName (name : String) : String :=
  if endsIn name templateSuffix then name else name ++ templateSuffix

/-- Reads a script document. -/
def ofJson (node : Json) : Except ConfigurationError Script :=
  match node with
  | .object fields => do
    let name ←
      match OrderedMap.get? fields "name" with
      | none => .ok unnamed
      | some (.string name) => .ok name
      | some other =>
        .error (.malformedField "name" s!"expected a string, found {other.kind}")
    let template ←
      match OrderedMap.get? fields "template" with
      | none => .ok none
      | some (.string template) => .ok (some template)
      | some (.array _) =>
        .error (.malformedField "template" "array template values are not supported")
      | some other =>
        .error (.malformedField "template" s!"expected a string, found {other.kind}")
    .ok ⟨name, template, fields⟩
  | other => .error (.notAnObject other.kind)

/-- The script is only inherited from. -/
def isTemplate (s : Script) : Bool :=
  endsIn s.name templateSuffix

/-- The script can be run. -/
def isRunnable (s : Script) : Bool :=
  !s.isTemplate

/-- The script is the template of all that name none. -/
def isImplicitTemplate (s : Script) : Bool :=
  s.name == implicitTemplate

/-- The script as text for people. -/
def display (s : Script) : String :=
  s!"Script[{s.name}]"

/-- The template that the script names, with its placeholders filled in. -/
def namedTemplate (s : Script) (b : Bindings) : Except BindingError (Option String) :=
  match s.template with
  | none => .ok none
  | some raw => do
    let name ← b.substitute raw
    .ok (some (templateName name))

/-! ## Own method -/

/-- The methods and URIs among fields, up to the first method whose URI is no string. -/
def scanMethods : List (String × Json) → List (Method × String) × Option ConfigurationError
  | [] => ([], none)
  | (key, value) :: rest =>
    match Method.ofKey? key, value with
    | none, _ => scanMethods rest
    | some method, .string uri =>
      let (more, fault) := scanMethods rest
      ((method, uri) :: more, fault)
    | some method, other => ([], some (.malformedMethod method.name other.text))

/-- The method and URI that the script itself gives: the first ones. -/
def ownMethod (s : Script) : Except ConfigurationError (Option (Method × String)) :=
  match scanMethods s.fields with
  | (_, some fault) => .error fault
  | (found, none) => .ok found.head?

/-- One notice for each method after the first. -/
def methodNotices (s : Script) : List Notice :=
  match (scanMethods s.fields).1 with
  | [] => []
  | (first, uri) :: more => more.map fun m => .repeatedMethod s.name m.1 first uri

/-! ## Own sections -/

/-- The members of a section that has to be an object, if it is there. -/
def sectionMembers (s : Script) (key : String) : Except ConfigurationError (List (String × Json)) :=
  match OrderedMap.get? s.fields key with
  | none => .ok []
  | some (.object members) => .ok members
  | some other =>
    .error (.malformedField key s!"expected an object, found {other.kind}")

/-- The headers that the script itself gives, unexpanded. -/
def ownHeaders (s : Script) : Except ConfigurationError (List Header) := do
  let members ← s.sectionMembers "headers"
  .ok (members.map fun member => (member.1, member.2.display))

/-- The variables that the script itself binds, unexpanded. -/
def ownEnv (s : Script) : Except ConfigurationError (List (String × Json)) :=
  s.sectionMembers "env"

/-- The body that the script itself gives. -/
def ownBody? (s : Script) : Option Json :=
  OrderedMap.get? s.fields "body"

/-- The rules that the script itself declares for a stage. -/
def ownRules (s : Script) (stage : Stage) : Except ConfigurationError (List Rule) :=
  match OrderedMap.get? s.fields stage.sectionKey with
  | none | some .null => .ok []
  | some (.array nodes) => nodes.mapM fun node => Rule.ofJson stage node s.name
  | some single => do
    let rule ← Rule.ofJson stage single s.name
    .ok [rule]

end Script

end RestSuite
