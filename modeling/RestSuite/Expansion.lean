import RestSuite.Bindings
import RestSuite.Disk.Basic
import RestSuite.Placeholder

/-!
# Expansion of texts

A text is expanded in two steps. If it starts with `@`, it is a redirect and the content of the file
it names takes its place. Then every placeholder gives way to the text of its variable; what is
put in is not expanded again.
-/

namespace RestSuite

/-- Why a text could not be expanded. -/
inductive BindingError where
  /-- A placeholder names a variable that is not bound. -/
  | unbound (name : String)
  /-- The file of a redirect could not be read. -/
  | unreadable (path : String) (reason : FileError)
  deriving DecidableEq, Repr

/-- The wording of a binding error. -/
def BindingError.message : BindingError → String
  | .unbound name => s!"missing binding for variable '{name}'"
  | .unreadable path reason =>
    s!"cannot read redirected content from '{path}': {reason.message}"

/-! ## Placeholders -/

/-- The characters that a piece stands for. -/
def Bindings.fill (b : Bindings) : Placeholder.Piece → Except BindingError (List Char)
  | .literal c => .ok [c]
  | .reference name =>
    match b.text? name with
    | some text => .ok text.toList
    | none => .error (.unbound name)

/-- The characters that pieces stand for; the first unbound name is the error. -/
def Bindings.fillAll (b : Bindings) : List Placeholder.Piece → Except BindingError (List Char)
  | [] => .ok []
  | piece :: more => do
    let text ← b.fill piece
    let rest ← b.fillAll more
    .ok (text ++ rest)

/-- Puts values in the place of placeholders. -/
def Bindings.substitute (b : Bindings) (text : String) : Except BindingError String := do
  let filled ← b.fillAll (Placeholder.pieces text.toList)
  .ok (String.ofList filled)

/-! ## Redirects -/

/-- The path of a redirect. A sign with nothing but blanks after it is plain text. -/
def redirectPath? (text : String) : Option String :=
  match text.toList with
  | '@' :: path => if Text.trim path = [] then none else some (String.ofList path)
  | _ => none

/-- What a text is expanded against. -/
structure Scope where
  bindings : Bindings
  disk : Disk
  /-- The directory that relative paths start from, in place of the working directory. -/
  baseDirectory : Option String

namespace Scope

/-- Puts the content of the file in the place of a redirect; other texts stay as they are. -/
def resolveRedirect (s : Scope) (text : String) : Except BindingError String :=
  match redirectPath? text with
  | none => .ok text
  | some path => do
    let path ← s.bindings.substitute (Text.trimmed path)
    let full := Path.resolve path s.baseDirectory
    match s.disk.readText full with
    | .ok content => .ok content
    | .error reason => .error (.unreadable full reason)

/-- Expands a text: its redirect first, then its placeholders. -/
def expand (s : Scope) (text : String) : Except BindingError String := do
  let content ← s.resolveRedirect text
  s.bindings.substitute content

end Scope

end RestSuite
