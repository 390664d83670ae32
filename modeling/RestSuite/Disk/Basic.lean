import RestSuite.Disk.Path
import RestSuite.Text.Utf8

/-!
# Files and directories

A disk maps locations to files and directories. A path is resolved from the working directory, or
from the root, name by name: every name but the last has to be a directory. Reading a file leaves
the disk as it is; writing one changes the content at one location and nothing else.
-/

namespace RestSuite

/-- Why a file could not be read or written. -/
inductive FileError where
  | missing
  | notDirectory
  | isDirectory
  | nameTooLong
  | notText
  | nulInPath
  deriving DecidableEq, Repr

/-- The wording of a file error. -/
def FileError.message : FileError → String
  | .missing => "No such file or directory (os error 2)"
  | .notDirectory => "Not a directory (os error 20)"
  | .isDirectory => "Is a directory (os error 21)"
  | .nameTooLong => "File name too long (os error 36)"
  | .notText => "stream did not contain valid UTF-8"
  | .nulInPath => "file name contained an unexpected NUL byte"

/-- The names that lead to a place, the innermost first. -/
abbrev Location := List String

/-- What stands at a location. -/
inductive Entry where
  | file (content : ByteArray)
  | directory

/-- The files and directories below the root. -/
structure Disk where
  entries : List (Location × Entry)

namespace Disk

/-- The working directory. It lies below a directory of its own, and neither name can be spelled in
a path, since names hold no slash. -/
def home : Location := ["/", "/"]

/-- A disk with nothing in the working directory. -/
def empty : Disk := ⟨[(home, .directory), (home.tail, .directory), ([], .directory)]⟩

/-- What stands at a location. -/
def get? (d : Disk) (place : Location) : Option Entry :=
  d.entries.lookup place

/-- Puts an entry at a location, in place of the one that stands there. -/
def put (d : Disk) (place : Location) (e : Entry) : Disk :=
  ⟨(place, e) :: d.entries.filter (fun entry => entry.1 != place)⟩

/-! ## Resolving paths -/

/-- The longest name, in bytes. -/
def nameLimit : Nat := 255

/-- The number of bytes from which on a path is too long. -/
def pathLimit : Nat := 4096

/-- The location of a name within a directory, if the name is not too long. -/
def child (dir : Location) (name : String) : Except FileError Location :=
  if nameLimit < name.utf8ByteSize then .error .nameTooLong else .ok (name :: dir)

/-- Goes into a directory. -/
def enter (d : Disk) (dir : Location) (name : String) : Except FileError Location :=
  if name = "" ∨ name = "." then .ok dir
  else if name = ".." then .ok dir.tail
  else do
    let next ← child dir name
    match d.get? next with
    | some .directory => .ok next
    | some (.file _) => .error .notDirectory
    | none => .error .missing

/-- Goes through directories one after the other. -/
def walk (d : Disk) (dir : Location) : List String → Except FileError Location
  | [] => .ok dir
  | name :: more => do
    let next ← d.enter dir name
    d.walk next more

/-- The names of a path, the last first. -/
def namesReversed (path : String) : List String :=
  (Path.parts path.toList).reverse.map String.ofList

/-- Refuses a path that no look-up starts with. -/
def checkPath (path : String) : Except FileError Unit :=
  if '\x00' ∈ path.toList then .error .nulInPath
  else if path = "" then .error .missing
  else if pathLimit ≤ path.utf8ByteSize then .error .nameTooLong
  else .ok ()

/-- Where the look-up of a path starts. -/
def start (path : String) : Location :=
  if Path.isAbsolute path then [] else home

/-- A name that stands for a directory already reached. -/
def isDots (name : String) : Bool :=
  name == "" || name == "." || name == ".."

/-! ## Reading and writing -/

/-- The content of the file that a path names. -/
def readBytes (d : Disk) (path : String) : Except FileError ByteArray := do
  checkPath path
  match namesReversed path with
  | [] => .error .missing
  | last :: before =>
    let dir ← d.walk (start path) before.reverse
    if isDots last then .error .isDirectory
    else
      let place ← child dir last
      match d.get? place with
      | some (.file content) => .ok content
      | some .directory => .error .isDirectory
      | none => .error .missing

/-- The text of the file that a path names. -/
def readText (d : Disk) (path : String) : Except FileError String := do
  let content ← d.readBytes path
  match Text.ofUtf8? content with
  | some text => .ok text
  | none => .error .notText

/-- The location at which a file is written. A path that ends in a slash names a directory, even
where none stands. -/
def target (d : Disk) (path : String) : Except FileError Location := do
  checkPath path
  let names := namesReversed path
  match names.dropWhile (· == "") with
  | [] => .error .isDirectory
  | last :: before =>
    let dir ← d.walk (start path) before.reverse
    if names.head? = some "" ∨ isDots last then .error .isDirectory
    else
      let place ← child dir last
      match d.get? place with
      | some .directory => .error .isDirectory
      | _ => .ok place

/-- The disk after a text is written to the file that a path names. -/
def writeText (d : Disk) (path text : String) : Except FileError Disk := do
  let place ← d.target path
  .ok (d.put place (.file text.toUTF8))

/-! ## Setting up and listing -/

/-- Makes the directories on the way and returns the last. -/
def makeDirectories (d : Disk) (dir : Location) : List String → Disk × Location
  | [] => (d, dir)
  | name :: more =>
    if name = "" ∨ name = "." then d.makeDirectories dir more
    else if name = ".." then d.makeDirectories dir.tail more
    else (d.put (name :: dir) .directory).makeDirectories (name :: dir) more

/-- Creates a file together with the directories that hold it, or a directory if the path ends in a
slash. -/
def create (d : Disk) (path : String) (content : ByteArray) : Disk :=
  match namesReversed path with
  | [] => d
  | last :: before =>
    let (d, dir) := d.makeDirectories (start path) before.reverse
    if isDots last then d else d.put (last :: dir) (.file content)

/-- The path of a location below the working directory, as seen from there. -/
def relative? (place : Location) : Option String :=
  let names := place.reverse
  if names.take home.length = home.reverse then
    some (String.intercalate "/" (names.drop home.length))
  else none

/-- The files below the working directory, sorted by their paths. -/
def files (d : Disk) : List (String × ByteArray) :=
  let listed := d.entries.filterMap fun entry =>
    match entry with
    | (place, .file content) => (relative? place).map (·, content)
    | (_, .directory) => none
  listed.mergeSort fun a b => decide (a.1 ≤ b.1)

end Disk

end RestSuite
