import RestSuite.Pattern.Escape

/-!
# Classes in brackets

A class lists characters, ranges and other classes; two signs between lists meet, subtract or
compare them. The reader goes from sign to sign and keeps the classes that are still open on a
stack, the innermost first. Beside the set it counts how deep the class is nested.
-/

namespace RestSuite.Pattern

/-- A set and the nesting of the text that gave it. -/
structure ClassPart where
  set : Unicode.CharSet
  nesting : Nat

/-- A list of parts, taken together. -/
structure ClassUnion where
  set : Unicode.CharSet
  count : Nat
  /-- The deepest nesting of a part. -/
  nesting : Nat

/-- How two lists are combined. -/
inductive ClassOperator where
  | intersection
  | difference
  | symmetricDifference
  deriving DecidableEq

/-- A class that is still open. -/
structure OpenClass where
  negated : Bool
  /-- What stands before the last operator. -/
  left : Option (ClassPart × ClassOperator)
  items : ClassUnion
  /-- Only hyphens have come so far; they stand for themselves. -/
  atStart : Bool

namespace ClassUnion

/-- A list of nothing. -/
def empty : ClassUnion := ⟨.none, 0, 0⟩

/-- Adds a part. -/
def add (u : ClassUnion) (p : ClassPart) : ClassUnion :=
  ⟨u.set.union p.set, u.count + 1, max u.nesting p.nesting⟩

/-- The list as one part. More than one member is a level of its own. -/
def part (u : ClassUnion) : ClassPart :=
  ⟨u.set, if 2 ≤ u.count then u.nesting + 1 else u.nesting⟩

end ClassUnion

namespace OpenClass

/-- A class in which nothing has been read. -/
def fresh (negated : Bool) : OpenClass := ⟨negated, none, .empty, true⟩

/-- Adds a part to the list in hand. -/
def add (k : OpenClass) (p : ClassPart) : OpenClass :=
  { k with items := k.items.add p, atStart := false }

/-- Applies the pending operator to the list in hand. -/
def combined (f : Flags) (k : OpenClass) : ClassPart :=
  let right := k.items.part
  match k.left with
  | none => right
  | some (left, operator) =>
    let a := f.fold left.set
    let b := f.fold right.set
    let set :=
      match operator with
      | .intersection => a.intersection b
      | .difference => a.difference b
      | .symmetricDifference => a.symmetricDifference b
    ⟨set, max left.nesting right.nesting + 1⟩

/-- Starts a new list behind an operator. -/
def operate (f : Flags) (k : OpenClass) (operator : ClassOperator) : OpenClass :=
  { k with left := some (k.combined f, operator), items := .empty, atStart := false }

/-- Ends the class. -/
def close? (f : Flags) (k : OpenClass) : Option ClassPart := do
  let whole := k.combined f
  let set ← f.close? k.negated whole.set
  some ⟨set, whole.nesting + 1⟩

end OpenClass

/-! ## Named classes -/

/-- The ASCII class of a name. -/
def namedClass? (name : String) : Option Unicode.CharSet :=
  (match name with
    | "alnum" => some [(0x30, 0x39), (0x41, 0x5a), (0x61, 0x7a)]
    | "alpha" => some [(0x41, 0x5a), (0x61, 0x7a)]
    | "ascii" => some [(0x00, 0x7f)]
    | "blank" => some [(0x09, 0x09), (0x20, 0x20)]
    | "cntrl" => some [(0x00, 0x1f), (0x7f, 0x7f)]
    | "digit" => some [(0x30, 0x39)]
    | "graph" => some [(0x21, 0x7e)]
    | "lower" => some [(0x61, 0x7a)]
    | "print" => some [(0x20, 0x7e)]
    | "punct" => some [(0x21, 0x2f), (0x3a, 0x40), (0x5b, 0x60), (0x7b, 0x7e)]
    | "space" => some [(0x09, 0x0d), (0x20, 0x20)]
    | "upper" => some [(0x41, 0x5a)]
    | "word" => some [(0x30, 0x39), (0x41, 0x5a), (0x5f, 0x5f), (0x61, 0x7a)]
    | "xdigit" => some [(0x30, 0x39), (0x41, 0x46), (0x61, 0x66)]
    | _ => none).map .ofRanges

/-- A class by name, up to the closing colon and bracket: the set, whether it is negated, and what
follows. -/
def namedClassBehind? (negated : Bool) (cs : List Char) :
    Option (Unicode.CharSet × Bool × List Char) :=
  match cs.dropWhile (· != ':') with
  | ':' :: ']' :: after =>
    (namedClass? (String.ofList (cs.takeWhile (· != ':')))).map (·, negated, after)
  | _ => none

/-- A class by name, between colons, behind its opening bracket. -/
def namedClassAtFront? (cs : List Char) : Option (Unicode.CharSet × Bool × List Char) :=
  match cs with
  | ':' :: '^' :: rest => namedClassBehind? true rest
  | ':' :: rest => namedClassBehind? false rest
  | _ => none

/-! ## Reading -/

/-- Reads a character or an escape. -/
def readClassItem (f : Flags) : List Char → Option (Escape × List Char)
  | [] => none
  | '\\' :: rest => readEscape f rest
  | c :: rest => some (.char c, rest)

/-- A character as a member of a class. Without Unicode it has to be in ASCII. -/
def memberOf? (f : Flags) (c : Char) : Option Unicode.CharSet :=
  if f.unicode || c.toNat < 0x80 then some (.single c) else none

/-- The character that decides whether a hyphen in front of it makes a range. -/
def beyondHyphen? (f : Flags) (cs : List Char) : Option Char :=
  if f.verbose then
    match cs.dropWhile Text.isBlank with
    | '#' :: rest => (rest.dropWhile Text.isBlank).head?
    | rest => rest.head?
  else cs.head?

/-- A hyphen is next, and it does not stand for itself. -/
def startsRange (f : Flags) (cs : List Char) : Bool :=
  cs.head? == some '-' && beyondHyphen? f cs.tail != some ']' && beyondHyphen? f cs.tail != some '-'

/-- What an escape adds to a class. -/
def Escape.part? (f : Flags) : Escape → Option ClassPart
  | .char c => (memberOf? f c).map fun s => ⟨s, 0⟩
  | .set s => some ⟨s, 0⟩
  | .look _ => none

/-- What a range between two escapes adds to a class. -/
def rangePart? (f : Flags) : Escape → Escape → Option ClassPart
  | .char a, .char b => do
    let _ ← memberOf? f a
    let _ ← memberOf? f b
    if b < a then none else some ⟨.between a b, 0⟩
  | _, _ => none

/-- Reads the end of a range behind its hyphen. -/
def readBehindHyphen (f : Flags) (first : Escape) (cs : List Char) : Option (ClassPart × List Char) := do
  let (second, after) ← readClassItem f (f.skip cs)
  (rangePart? f first second).map (·, after)

/-- Reads on behind an escape, which may be the first of a range. -/
def readRangeEnd (f : Flags) (first : Escape) (cs : List Char) : Option (ClassPart × List Char) :=
  if startsRange f cs then readBehindHyphen f first cs.tail else (first.part? f).map (·, cs)

/-- Reads a character, a range or a class that an escape stands for. -/
def readClassRange (f : Flags) (cs : List Char) : Option (ClassPart × List Char) := do
  let (first, rest) ← readClassItem f cs
  readRangeEnd f first (f.skip rest)

/-- Opens a class behind its bracket. -/
def openClass (f : Flags) (cs : List Char) : OpenClass × List Char :=
  match f.skip cs with
  | '^' :: rest => (.fresh true, f.skip rest)
  | rest => (.fresh false, rest)

/-- What a step of the reader comes to: the classes that are still open, or the finished class. -/
inductive ClassStep where
  | inside (current : OpenClass) (outer : List OpenClass)
  | finished (p : ClassPart)

/-- Reads a member of a class. -/
def readMember (f : Flags) (current : OpenClass) (outer : List OpenClass) (cs : List Char) :
    Option (ClassStep × List Char) :=
  (readClassRange f cs).map fun (p, after) => (.inside (current.add p) outer, after)

/-- Reads what stands behind an opening bracket in a class: a class by name, or a class in the class. -/
def readBracket (f : Flags) (current : OpenClass) (outer : List OpenClass) (cs : List Char) :
    Option (ClassStep × List Char) :=
  match namedClassAtFront? cs with
  | some (s, negated, after) =>
    (f.close? negated s).map fun set => (.inside (current.add ⟨set, 0⟩) outer, after)
  | none => some (.inside (openClass f cs).1 (current :: outer), (openClass f cs).2)

/-- Ends a class in others. -/
def endClass (p : ClassPart) : List OpenClass → ClassStep
  | [] => .finished p
  | parent :: more => .inside (parent.add p) more

/-- Reads the next sign of a class. -/
def classStep (f : Flags) (current : OpenClass) (outer : List OpenClass) (cs : List Char) :
    Option (ClassStep × List Char) :=
  match f.skip cs with
  | [] => none
  | '[' :: rest => readBracket f current outer rest
  | ']' :: rest =>
    if current.atStart && current.items.count == 0 then
      some (.inside (current.add ⟨.single ']', 0⟩) outer, rest)
    else (current.close? f).map fun p => (endClass p outer, rest)
  | '&' :: '&' :: rest => some (.inside (current.operate f .intersection) outer, rest)
  | '~' :: '~' :: rest => some (.inside (current.operate f .symmetricDifference) outer, rest)
  | '-' :: rest =>
    if current.atStart then
      some (.inside { current.add ⟨.single '-', 0⟩ with atStart := true } outer, rest)
    else
      match rest with
      | '-' :: more => some (.inside (current.operate f .difference) outer, more)
      | _ => readMember f current outer ('-' :: rest)
  | c :: rest => readMember f current outer (c :: rest)

/-- Reads the rest of a class; every step takes a character. -/
def readOpenClasses (f : Flags) :
    Nat → OpenClass → List OpenClass → List Char → Option (ClassPart × List Char)
  | 0, _, _, _ => none
  | n + 1, current, outer, cs =>
    match classStep f current outer cs with
    | none => none
    | some (.finished p, after) => some (p, after)
    | some (.inside current outer, after) => readOpenClasses f n current outer after

/-- Reads a class behind its opening bracket. -/
def readClass (f : Flags) (cs : List Char) : Option (ClassPart × List Char) :=
  let (first, rest) := openClass f cs
  readOpenClasses f (rest.length + 1) first [] rest

end RestSuite.Pattern
