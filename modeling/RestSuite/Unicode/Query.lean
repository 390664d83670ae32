import RestSuite.Unicode.Age
import RestSuite.Unicode.Category
import RestSuite.Unicode.CharSet
import RestSuite.Unicode.Letter
import RestSuite.Unicode.Property
import RestSuite.Unicode.Script
import RestSuite.Unicode.ScriptExtensions
import RestSuite.Unicode.Segmentation

/-!
# Sets of characters by property

Looks up sets by the names of Unicode properties and of their values. Names are matched loosely:
case, blanks, hyphens, underscores and a leading `is` do not count.
-/

namespace RestSuite.Unicode

/-- The form of a name in which names are compared. -/
def normalizeName (name : String) : String :=
  let cs := name.toList
  let startsWithIs :=
    match cs with
    | i :: s :: _ => (i == 'i' || i == 'I') && (s == 's' || s == 'S')
    | _ => false
  let cs := if startsWithIs then cs.drop 2 else cs
  let kept := cs.filter fun c => c != ' ' && c != '_' && c != '-' && c.toNat < 0x80
  let lowered := kept.map Char.toLower
  -- The short name of the comment property is not the category of one letter.
  if startsWithIs && lowered == ['c'] then "isc" else String.ofList lowered

/-- The set that a table gives for a name. -/
def inTable? (table : List (List String × String)) (name : String) : Option CharSet :=
  (table.find? fun entry => entry.1.contains name).map fun entry => CharSet.ofTable entry.2

/-- The characters of a category of two letters. -/
def categoryOfTwo (name : String) : CharSet :=
  (inTable? categoryTable name).getD .none

/-- The characters that no category lists. Surrogates count as listed. -/
def unassigned : CharSet :=
  let listed := categoryTable.flatMap fun entry => (CharSet.ofTable entry.2).ranges
  (CharSet.ofRanges ((0xd800, 0xdfff) :: listed)).complement

/-- The characters of a general category. -/
def category? (name : String) : Option CharSet :=
  if name = "any" then some .all
  else if name = "assigned" then some unassigned.complement
  else if name = "ascii" then some (.ofRanges [(0, 0x7f)])
  else if name = "cn" ∨ name = "unassigned" then some unassigned
  else
    match inTable? categoryTable name with
    | some s => some s
    | none =>
      (categoryUnions.find? fun entry => entry.1.contains name).map fun entry =>
        CharSet.ofRanges (entry.2.flatMap fun part =>
          if part = "cn" then unassigned.ranges else (categoryOfTwo part).ranges)

/-- The characters of a script. -/
def script? (name : String) : Option CharSet :=
  inTable? scriptTable name

/-- The characters that are used with a script. -/
def scriptExtensions? (name : String) : Option CharSet :=
  match inTable? scriptExtensionTable name with
  | some s => some s
  | none => script? name

/-- The characters that came in with a version or before it. -/
def age? (name : String) : Option CharSet :=
  let isVersion (entry : List String × String) : Bool := entry.1.contains name
  if ageTable.any isVersion then
    let older := ageTable.takeWhile fun entry => !isVersion entry
    let own := ageTable.filter isVersion
    some (CharSet.ofRanges ((older ++ own).flatMap fun e => (CharSet.ofTable e.2).ranges))
  else none

/-- The set that a single name stands for: a binary property, a category or a script. -/
def byName? (name : String) : Option CharSet :=
  let name := normalizeName name
  match inTable? propertyTable name with
  | some s => some s
  | none => category? name <|> script? name

/-- The set of the characters that have a value of a property. -/
def byValue? (property value : String) : Option CharSet :=
  let property := normalizeName property
  let value := normalizeName value
  if property = "gc" ∨ property = "generalcategory" then category? value
  else if property = "sc" ∨ property = "script" then script? value
  else if property = "scx" ∨ property = "scriptextensions" then scriptExtensions? value
  else if property = "age" then age? value
  else if property = "gcb" ∨ property = "graphemeclusterbreak" then
    inTable? graphemeBreakTable value
  else if property = "wb" ∨ property = "wordbreak" then inTable? wordBreakTable value
  else if property = "sb" ∨ property = "sentencebreak" then inTable? sentenceBreakTable value
  else none

/-! ## The classes of patterns -/

/-- Decimal digits. -/
def digits : CharSet :=
  categoryOfTwo "nd"

/-- White space. -/
def blanks : CharSet :=
  (inTable? propertyTable "whitespace").getD .none

/-- Letters, as a property. -/
def alphabetic : CharSet :=
  (inTable? propertyTable "alphabetic").getD .none

/-- The characters of words: letters, marks, digits, connectors and joiners. -/
def wordChars : CharSet :=
  CharSet.ofRanges (alphabetic.ranges ++
    (["mn", "mc", "me", "nd", "pc"].flatMap fun n => (categoryOfTwo n).ranges) ++
    ((inTable? propertyTable "joincontrol").getD .none).ranges)

/-- Letters, with those that came later. -/
def letters : CharSet :=
  alphabetic.union (CharSet.ofTable laterLetterTable)

/-- Letters and numbers, with those that came later. -/
def lettersAndNumbers : CharSet :=
  CharSet.ofRanges (letters.ranges ++ (CharSet.ofTable laterNumberTable).ranges ++
    ["nd", "nl", "no"].flatMap fun n => (categoryOfTwo n).ranges)

end RestSuite.Unicode
