import RestSuite.Json.Printer
import RestSuite.Settings.Basic
import RestSuite.Text.Quoted

/-!
# Reading settings

Settings are read from an object by the names of their fields, or from an array by their order.
Members with other names do not count; what is missing takes its standard value. The first value of
a wrong kind is the fault.
-/

namespace RestSuite.Settings

/-- The kinds of values that fields have. -/
inductive Wanted where
  | long
  | short
  | flag
  | text
  | path
  | settings
  deriving DecidableEq, Repr

/-- The word for a wanted kind. -/
def Wanted.word : Wanted → String
  | .long => "u64"
  | .short => "u32"
  | .flag => "a boolean"
  | .text => "a string"
  | .path => "path string"
  | .settings => "struct RuntimeConfig"

/-- Why a value cannot be read as settings. -/
inductive ReadError where
  | wrongKind (found : Json) (wanted : Wanted)
  /-- A number of the right kind that is too large or too small. -/
  | outOfRange (found : Int) (wanted : Wanted)
  /-- An array with more values than there are fields. -/
  | tooLong (length : Nat)

/-- How a value is named in a message. -/
def describe : Json → String
  | .null => "null"
  | .bool b => s!"boolean \x60{b}\x60"
  | .number (.integer value _) => s!"integer \x60{value}\x60"
  | .number (.real value) => s!"floating point \x60{(Json.number (.real value)).text}\x60"
  | .string s => s!"string {Text.shown s}"
  | .array _ => "sequence"
  | .object _ => "map"

/-- The wording of a read error. -/
def ReadError.message : ReadError → String
  | .wrongKind found wanted => s!"invalid type: {describe found}, expected {wanted.word}"
  | .outOfRange found wanted =>
    s!"invalid value: integer \x60{found}\x60, expected {wanted.word}"
  | .tooLong length => s!"invalid length {length}, expected fewer elements in array"

/-- A natural number up to a limit. -/
def readNat (wanted : Wanted) (limit : Nat) : Json → Except ReadError Nat
  | .number (.integer value _) =>
    if 0 ≤ value ∧ value ≤ limit then .ok value.toNat else .error (.outOfRange value wanted)
  | other => .error (.wrongKind other wanted)

/-- A number of milliseconds. -/
def readLong : Json → Except ReadError Nat := readNat .long 0xffffffffffffffff

/-- A small number. -/
def readShort : Json → Except ReadError Nat := readNat .short 0xffffffff

/-- A truth value. -/
def readFlag : Json → Except ReadError Bool
  | .bool b => .ok b
  | other => .error (.wrongKind other .flag)

/-- A text. -/
def readText (wanted : Wanted) : Json → Except ReadError String
  | .string s => .ok s
  | other => .error (.wrongKind other wanted)

/-- A text or nothing. -/
def readOptional (wanted : Wanted) : Json → Except ReadError (Option String)
  | .null => .ok none
  | other => (readText wanted other).map some

/-- The fields, in their order. -/
def fieldNames : List String :=
  ["timeout", "followRedirects", "maxRedirects", "validateSsl", "baseDirectory", "baseUrl",
    "userAgent", "failFast"]

/-- Sets the field of a name. Other names do not count. -/
def setField (s : Settings) (name : String) (value : Json) : Except ReadError Settings :=
  match name with
  | "timeout" => (readLong value).map fun v => { s with timeout := v }
  | "followRedirects" => (readFlag value).map fun v => { s with followRedirects := v }
  | "maxRedirects" => (readShort value).map fun v => { s with maxRedirects := v }
  | "validateSsl" => (readFlag value).map fun v => { s with validateSsl := v }
  | "baseDirectory" => (readOptional .path value).map fun v => { s with baseDirectory := v }
  | "baseUrl" => (readOptional .text value).map fun v => { s with baseUrl := v }
  | "userAgent" => (readText .text value).map fun v => { s with userAgent := v }
  | "failFast" => (readFlag value).map fun v => { s with failFast := v }
  | _ => .ok s

/-- Sets fields, one after the other. -/
def setFields (s : Settings) : List (String × Json) → Except ReadError Settings
  | [] => .ok s
  | (name, value) :: rest => do
    let s ← s.setField name value
    s.setFields rest

/-- Reads settings. -/
def ofJson : Json → Except ReadError Settings
  | .object members => standard.setFields members
  | .array items => do
    let s ← standard.setFields (fieldNames.zip items)
    if fieldNames.length < items.length then .error (.tooLong items.length) else .ok s
  | other => .error (.wrongKind other .settings)

/-- Settings as an object. -/
def toJson (s : Settings) : Json :=
  let textOrNull (t : Option String) : Json := (t.map Json.string).getD .null
  .object [
    ("timeout", .ofNat s.timeout),
    ("followRedirects", .bool s.followRedirects),
    ("maxRedirects", .ofNat s.maxRedirects),
    ("validateSsl", .bool s.validateSsl),
    ("baseDirectory", textOrNull s.baseDirectory),
    ("baseUrl", textOrNull s.baseUrl),
    ("userAgent", .string s.userAgent),
    ("failFast", .bool s.failFast)]

end RestSuite.Settings
