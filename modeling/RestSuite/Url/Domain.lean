import RestSuite.Unicode.Direction
import RestSuite.Unicode.DomainMapping
import RestSuite.Unicode.Normalization
import RestSuite.Unicode.Query
import RestSuite.Url.Address
import RestSuite.Url.Punycode

/-!
# Domain names

A domain name in any script is brought into one form: characters that mean the same are made the
same, and labels beyond ASCII are written in ASCII. Names with characters that no domain has, or
with labels that cannot be read back, are refused.
-/

namespace RestSuite.Url.Domain

open Unicode (CharSet)

/-! ## One form for every character -/

/-- What characters give way to: a set of characters, and what stands for each. -/
def mappings : List (CharSet × List Char) :=
  (Unicode.domainMappingTable.splitOn ",").filterMap fun entry =>
    match entry.splitOn "=" with
    | [target, sources] =>
      some (CharSet.ofTable sources,
        (CharSet.ofTable target).ranges.map fun r => Char.ofNat r.1)
    | _ => none

/-- The characters that are left out. -/
def ignored : CharSet := CharSet.ofTable Unicode.domainIgnoredTable

/-- The characters that no domain has. -/
def refused : CharSet := CharSet.ofTable Unicode.domainRefusedTable

/-- What a character is read as. -/
def mapChar (c : Char) : List Char :=
  if c.toNat < 0x80 then [c.toLower]
  else if ignored.contains c then []
  else
    match mappings.find? fun m => m.1.contains c with
    | some m => m.2
    | none => [c]

/-- What a name is read as. -/
def mapped (cs : List Char) : List Char :=
  Unicode.canonical (cs.flatMap mapChar)

/-- ASCII characters that no domain has, besides blanks and controls. -/
def forbidden : List Char :=
  ['%', '#', '/', ':', '<', '>', '?', '@', '[', '\\', ']', '^', '|']

/-- The character may stand in a name. -/
def isAllowed (c : Char) : Bool :=
  if c.toNat < 0x80 then 0x20 < c.toNat && c.toNat != 0x7f && !forbidden.contains c
  else !refused.contains c

/-! ## Joiners -/

/-- The characters of a class of joining. -/
def joining (name : String) : CharSet :=
  (Unicode.inTable? Unicode.joiningTable name).getD .none

/-- The combining class of the marks that a joiner may follow. -/
def viramaClass : Nat := 9

/-- The next letter that counts connects on one of two sides. -/
def connects (side : String) (cs : List Char) : Bool :=
  match cs.dropWhile (joining "t").contains with
  | [] => false
  | c :: _ => (joining side).contains c || (joining "d").contains c

/-- Joiners stand only where they have an effect. `before` is what comes before, reversed. -/
def joinersFit (before : List Char) : List Char → Bool
  | [] => true
  | c :: rest =>
    let afterVirama := before.head?.any fun b => Unicode.combiningClass b.toNat == viramaClass
    let fits :=
      if c = '\u200d' then afterVirama
      else if c = '\u200c' then afterVirama || (connects "l" before && connects "r" rest)
      else true
    fits && joinersFit (c :: before) rest

/-! ## Direction -/

/-- The character is of one of some classes of direction. -/
def directed (names : List String) (c : Char) : Bool :=
  names.any fun name =>
    ((Unicode.inTable? Unicode.directionTable name).getD .none).contains c

/-- The name has characters that are written from right to left. -/
def hasRightToLeft (cs : List Char) : Bool :=
  cs.any (directed ["r", "al", "an"])

/-- The last character that is no mark is of one of some classes. -/
def endsDirected (names : List String) (label : List Char) : Bool :=
  match label.reverse.dropWhile (directed ["nsm"]) with
  | [] => false
  | c :: _ => directed names c

/-- A label reads the same way throughout. -/
def directionFits (label : List Char) : Bool :=
  match label with
  | [] => true
  | first :: _ =>
    if directed ["r", "al"] first then
      label.all (directed ["r", "al", "an", "en", "es", "cs", "et", "on", "bn", "nsm"]) &&
        endsDirected ["r", "al", "en", "an"] label &&
        !(label.any (directed ["en"]) && label.any (directed ["an"]))
    else
      directed ["l"] first &&
        label.all (directed ["l", "en", "es", "cs", "et", "on", "bn", "nsm"]) &&
        endsDirected ["l", "en"] label

/-! ## Labels -/

/-- Marks, which no label starts with. -/
def marks : CharSet := CharSet.ofTable Unicode.markTable

/-- A label that may be part of a name. -/
def isLabel (label : List Char) : Bool :=
  label.all isAllowed && joinersFit [] label && !label.head?.any marks.contains

/-- How a label starts that is written in ASCII for one beyond it. -/
def asciiMark : List Char := "xn--".toList

/-- A label in its own characters. One that is written in ASCII for no good reason is refused. -/
def label? (label : List Char) : Option (List Char) :=
  if asciiMark.isPrefixOf label then do
    let own ← Punycode.decode? (label.drop asciiMark.length)
    if own.all (fun c => c.toNat < 0x80) || mapped own != own || own.contains '.' then none
    else some own
  else some label

/-- A label in ASCII. -/
def asciiLabel? (label : List Char) : Option (List Char) :=
  if label.all fun c => c.toNat < 0x80 then some label
  else (Punycode.encode? label).map (asciiMark ++ ·)

/-- Labels with dots between. -/
def joinLabels : List (List Char) → List Char
  | [] => []
  | [label] => label
  | label :: rest => label ++ '.' :: joinLabels rest

/-- A domain name in ASCII. -/
def toAscii? (text : String) : Option (List Char) := do
  let own ← (splitAtChar '.' (mapped text.toList)).mapM label?
  if !own.all isLabel then none
  else if own.any hasRightToLeft && !own.all directionFits then none
  else (own.mapM asciiLabel?).map joinLabels

end RestSuite.Url.Domain
