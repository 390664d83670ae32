import RestSuite.Pattern.Flags

/-!
# Escapes in patterns

What a backslash and the characters behind it stand for: a character, a class of characters or a
place. Readers take what is behind the backslash and give what follows the escape.
-/

namespace RestSuite.Pattern

/-- What an escape stands for. -/
inductive Escape where
  | char (c : Char)
  | set (s : Unicode.CharSet)
  | look (a : Anchor)

namespace Escape

/-- Characters with a meaning of their own, which a backslash takes away. -/
def isMeta (c : Char) : Bool :=
  "\\.+*?()|[]\x7b\x7d^$#&-~".toList.contains c

/-- Characters that a backslash leaves as they are: all of ASCII but letters, digits and the two
word signs. -/
def isPlain (c : Char) : Bool :=
  isMeta c || (c.toNat < 0x80 && !c.isAlphanum && c != '<' && c != '>')

/-- The value of hexadecimal digits. -/
def hexValue? (digits : List Char) : Option Nat :=
  digits.foldl (fun n c => do some (16 * (← n) + (← Unicode.CharSet.hexDigit? c))) (some 0)

/-- The character with a number. -/
def charOf? (n : Nat) : Option Char :=
  if n.isValidChar then some (Char.ofNat n) else none

/-- A hexadecimal digit, and what follows it. -/
def digitAtFront? : List Char → Option (Char × List Char)
  | [] => none
  | c :: rest => if (Unicode.CharSet.hexDigit? c).isNone then none else some (c, rest)

/-- A number of hexadecimal digits, and what follows them. -/
def fixedDigits (f : Flags) : Nat → List Char → Option (List Char × List Char)
  | 0, cs => some ([], cs)
  | n + 1, cs => do
    let (c, rest) ← digitAtFront? (f.skip cs)
    (fixedDigits f n rest).map fun (digits, after) => (c :: digits, after)

/-- Reads the number of a character: digits in braces, or as many as the letter asks for. -/
def hex (f : Flags) (letter : Char) (cs : List Char) : Option (Escape × List Char) :=
  match f.skip cs with
  | '{' :: rest => do
    let (digits, after) ← f.untilBrace false rest
    if digits.isEmpty then none
    else
      let c ← charOf? (← hexValue? digits)
      some (.char c, f.skip after)
  | _ => do
    let count := if letter == 'x' then 2 else if letter == 'u' then 4 else 8
    let (digits, after) ← fixedDigits f count cs
    let n ← hexValue? digits
    -- Two digits alone stand for a byte, which has to be a character by itself without Unicode.
    if letter == 'x' && !f.unicode && 0x80 ≤ n then none
    else
      let c ← charOf? n
      some (.char c, f.skip after)

/-- Cuts a text at the first place where another stands. -/
def cutAt? (mark : List Char) : List Char → Option (List Char × List Char)
  | [] => none
  | c :: rest =>
    if mark.isPrefixOf (c :: rest) then some ([], (c :: rest).drop mark.length)
    else (cutAt? mark rest).map fun (before, behind) => (c :: before, behind)

/-- The set that a property in braces names, and whether the sign between name and value negates. -/
def property? (text : List Char) : Option (Unicode.CharSet × Bool) :=
  let byValue (parts : List Char × List Char) : Option Unicode.CharSet :=
    Unicode.byValue? (String.ofList parts.1) (String.ofList parts.2)
  match cutAt? ['!', '='] text with
  | some parts => (byValue parts).map (·, true)
  | none =>
    match cutAt? [':'] text <|> cutAt? ['='] text with
    | some parts => (byValue parts).map (·, false)
    | none => (Unicode.byName? (String.ofList text)).map (·, false)

/-- The set that a property names, in braces or by one letter, and whether its name negates. -/
def namedSet? (f : Flags) : List Char → Option ((Unicode.CharSet × Bool) × List Char)
  | [] | '\\' :: _ => none
  | '{' :: rest => do
    let (text, after) ← f.untilBrace false rest
    (property? text).map (·, after)
  | c :: rest => (Unicode.byName? (String.singleton c)).map fun s => ((s, false), f.skip rest)

/-- The class of a Unicode property. -/
def ofProperty? (f : Flags) (negated : Bool) (named : Unicode.CharSet × Bool) : Option Escape :=
  if !f.unicode then none else (f.close? (negated != named.2) named.1).map .set

/-- Reads a class that is given by a Unicode property. -/
def unicodeClass (f : Flags) (negated : Bool) (cs : List Char) : Option (Escape × List Char) := do
  let (named, after) ← namedSet? f (f.skip cs)
  (ofProperty? f negated named).map (·, after)

/-- A class of one letter. An upper-case letter stands for the complement. -/
def shortClass (f : Flags) (letter : Char) (s : Unicode.CharSet) (cs : List Char) :
    Option (Escape × List Char) :=
  let s := if letter.isUpper then s.complement else s
  if f.unicode || s.isAscii then some (.set s, cs) else none

/-- Reads the kind of word edge in braces. Braces with anything but a name in them are left for a
repetition. -/
def wordEdge (f : Flags) (cs : List Char) : Option (Escape × List Char) :=
  match cs with
  | '{' :: rest => do
    let (text, after) ← f.untilBrace false rest
    match text with
    | [] => some (.look (.wordEdge f.words), cs)
    | c :: _ =>
      if !(c.isAlpha || c == '-') then some (.look (.wordEdge f.words), cs)
      else
        match String.ofList text with
        | "start" => some (.look (.wordStart f.words), after)
        | "end" => some (.look (.wordEnd f.words), after)
        | "start-half" => some (.look (.noWordBefore f.words), after)
        | "end-half" => some (.look (.noWordBehind f.words), after)
        | _ => none
  | _ => some (.look (.wordEdge f.words), cs)

end Escape

/-- Reads what stands behind a backslash. -/
def readEscape (f : Flags) : List Char → Option (Escape × List Char)
  | [] => none
  | c :: rest =>
    match c with
    | 'x' | 'u' | 'U' => Escape.hex f c rest
    | 'p' => Escape.unicodeClass f false rest
    | 'P' => Escape.unicodeClass f true rest
    | 'd' | 'D' => Escape.shortClass f c f.digits rest
    | 's' | 'S' => Escape.shortClass f c f.blanks rest
    | 'w' | 'W' => Escape.shortClass f c f.words rest
    | 'a' => some (.char '\x07', rest)
    | 'f' => some (.char '\x0c', rest)
    | 't' => some (.char '\t', rest)
    | 'n' => some (.char '\n', rest)
    | 'r' => some (.char '\r', rest)
    | 'v' => some (.char '\x0b', rest)
    | 'A' => some (.look .textStart, rest)
    | 'z' => some (.look .textEnd, rest)
    | 'b' => Escape.wordEdge f rest
    | 'B' => some (.look (.noWordEdge f.words), rest)
    | '<' => some (.look (.wordStart f.words), rest)
    | '>' => some (.look (.wordEnd f.words), rest)
    | _ => if Escape.isPlain c then some (.char c, rest) else none

end RestSuite.Pattern
