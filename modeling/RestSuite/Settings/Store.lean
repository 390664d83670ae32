import RestSuite.Disk.Basic
import RestSuite.Json.Parser
import RestSuite.Notice
import RestSuite.Settings.Reader

/-!
# The settings in force

Loading settings puts them in force. Settings that cannot be read or are not valid never come into
force: the standard ones take their place, and the operator is told. A file that cannot be read or
is no JSON changes nothing.
-/

namespace RestSuite.Settings

/-- The member of a settings document that is read. -/
def documentKey : String := "unravl"

/-- Why a settings file could not be loaded. -/
inductive LoadError where
  | unreadable (path : String) (reason : FileError)
  | malformed (path : String) (reason : Json.SyntaxError)

/-- The wording of a load error. -/
def LoadError.message : LoadError → String
  | .unreadable path reason => s!"cannot read settings file {path}: {reason.message}"
  | .malformed path reason => s!"settings file {path} is not valid JSON: {reason.message}"

/-- The settings themselves if they are valid, else the standard ones. -/
def validated (s : Settings) : Settings :=
  if s.fault?.isNone then s else standard

/-- What a document sets, on top of the standard settings, whether valid or not. -/
def requested (document : Option Json) : Settings × List Notice :=
  match document.bind (·.field? documentKey) with
  | none => (standard, [])
  | some value =>
    match ofJson value with
    | .ok own => (standard.merge own, [])
    | .error e => (standard, [.unreadableSettings documentKey e.message])

/-- The settings of a document. They come into force as they are returned. -/
def load (document : Option Json) : Settings × List Notice :=
  let (wanted, notices) := requested document
  let faults := (wanted.fault?.map fun fault =>
    Notice.invalidSettings documentKey fault.message).toList
  (wanted.validated, notices ++ faults)

/-- The settings in force after a change. A change that leaves them invalid ends in the standard
ones. -/
def update (current : Settings) (change : Settings → Settings) : Settings × List Notice :=
  let wanted := change current
  (wanted.validated, (wanted.fault?.map fun fault => Notice.invalidUpdate fault.message).toList)

/-- The settings with a relative base directory moved below another directory. -/
def below (parent : String) (s : Settings) : Settings :=
  match s.baseDirectory with
  | some dir =>
    if Path.isAbsolute dir then s else { s with baseDirectory := some (Path.join parent dir) }
  | none => s

/-- Loads a settings file. A relative base directory in it is meant from where the file is. The
answer is what the loading comes to, the settings in force after it, and notices. -/
def loadFile (disk : Disk) (path : String) (current : Settings) :
    Except LoadError Settings × Settings × List Notice :=
  match disk.readText path with
  | .error reason => (.error (.unreadable path reason), current, [])
  | .ok text =>
    match Json.parse text with
    | .error reason => (.error (.malformed path reason), current, [])
    | .ok document =>
      let (loaded, notices) := load (some document)
      match Path.parent? path with
      | none => (.ok loaded, loaded, notices)
      | some parent =>
        let (inForce, more) := loaded.update (below parent)
        (.ok (loaded.below parent), inForce, notices ++ more)

end RestSuite.Settings
