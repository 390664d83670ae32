import RestSuite.Pattern.Basic
import RestSuite.Text.Blank
import RestSuite.Unicode.Query

/-!
# Flags of a pattern

The flags that hold at a place of a pattern say what its characters mean there. With `verbose`,
blanks and comments in the written form do not count.
-/

namespace RestSuite.Pattern

/-- How a part of a pattern is read. -/
structure Flags where
  ignoreCase : Bool
  multiLine : Bool
  /-- The dot takes line breaks too. -/
  dotTakesAll : Bool
  /-- Repetitions are as short as possible unless marked. -/
  swapGreed : Bool
  /-- Classes are those of Unicode and not of ASCII. -/
  unicode : Bool
  /-- Carriage returns break lines too. -/
  anyBreak : Bool
  verbose : Bool
  deriving DecidableEq

namespace Flags

/-- The flags at the start of every pattern. -/
def standard : Flags := ⟨false, false, false, false, true, false, false⟩

/-- Sets the flag of a letter. -/
def set? (f : Flags) (letter : Char) (value : Bool) : Option Flags :=
  match letter with
  | 'i' => some { f with ignoreCase := value }
  | 'm' => some { f with multiLine := value }
  | 's' => some { f with dotTakesAll := value }
  | 'U' => some { f with swapGreed := value }
  | 'u' => some { f with unicode := value }
  | 'R' => some { f with anyBreak := value }
  | 'x' => some { f with verbose := value }
  | _ => none

/-! ## Blanks and comments -/

/-- Leaves out blanks and comments. A comment runs from a number sign to the end of its line. -/
def dropBlanks (inComment : Bool) : List Char → List Char
  | [] => []
  | c :: rest =>
    if inComment then dropBlanks (c != '\n') rest
    else if c == '#' then dropBlanks true rest
    else if Text.isBlank c then dropBlanks false rest
    else c :: rest

/-- Goes on to the next character that counts. -/
def skip (f : Flags) (cs : List Char) : List Char :=
  if f.verbose then dropBlanks false cs else cs

/-- The characters up to a closing brace, and what follows it. -/
def untilBrace (f : Flags) (inComment : Bool) : List Char → Option (List Char × List Char)
  | [] => none
  | c :: rest =>
    if inComment then untilBrace f (c != '\n') rest
    else if f.verbose && c == '#' then untilBrace f true rest
    else if f.verbose && Text.isBlank c then untilBrace f false rest
    else if c == '}' then some ([], rest)
    else (untilBrace f false rest).map fun (text, after) => (c :: text, after)

/-! ## Sets under the flags -/

/-- The characters that stand for one another when case does not count. -/
def fold (f : Flags) (s : Unicode.CharSet) : Unicode.CharSet :=
  if !f.ignoreCase then s
  else if f.unicode then s.foldCase
  else s.foldAsciiCase

/-- The set or its complement, closed under case before. Without Unicode, a set that goes beyond
ASCII would take parts of characters, which a text does not have. -/
def close? (f : Flags) (negated : Bool) (s : Unicode.CharSet) : Option Unicode.CharSet :=
  let s := f.fold s
  let s := if negated then s.complement else s
  if f.unicode || s.isAscii then some s else none

/-- Digits. -/
def digits (f : Flags) : Unicode.CharSet :=
  if f.unicode then Unicode.digits else .between '0' '9'

/-- Blanks. -/
def blanks (f : Flags) : Unicode.CharSet :=
  if f.unicode then Unicode.blanks else .ofRanges [(0x09, 0x0d), (0x20, 0x20)]

/-- The characters of words. -/
def words (f : Flags) : Unicode.CharSet :=
  if f.unicode then Unicode.wordChars
  else .ofRanges [(0x30, 0x39), (0x41, 0x5a), (0x5f, 0x5f), (0x61, 0x7a)]

/-- What the dot takes. -/
def dot? (f : Flags) : Option Unicode.CharSet :=
  if !f.unicode then none
  else if f.dotTakesAll then some .all
  else if f.anyBreak then some (Unicode.CharSet.ofRanges [(0x0a, 0x0a), (0x0d, 0x0d)]).complement
  else some (Unicode.CharSet.single '\n').complement

/-- What the start-of-line sign asks for. -/
def lineStart (f : Flags) : Anchor :=
  if f.multiLine then .lineStart f.anyBreak else .textStart

/-- What the end-of-line sign asks for. -/
def lineEnd (f : Flags) : Anchor :=
  if f.multiLine then .lineEnd f.anyBreak else .textEnd

end Flags

end RestSuite.Pattern
