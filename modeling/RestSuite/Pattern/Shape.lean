import RestSuite.Pattern.Basic
import RestSuite.Pattern.ByteForm

/-!
# The shape of a pattern

A pattern in the form that its automaton is built from. Characters that follow one another are one
text, sequences and alternatives are flat, alternatives of single characters are one set, and what
all alternatives start with stands before them. Both sides of a simplification take the same texts;
`Pattern.shape` is the only way from patterns to shapes.
-/

namespace RestSuite.Pattern

/-- A simplified pattern. -/
inductive Shape where
  | empty
  /-- Characters one after the other. -/
  | text (cs : List Char)
  /-- One character of a set, with the forms of its characters. -/
  | chars (s : Unicode.CharSet) (forms : List ByteForm)
  | look (a : Anchor)
  /-- A part that is no sequence itself, and those behind it. -/
  | seq (p q : Shape)
  /-- A branch that is no choice itself, and those behind it. -/
  | alt (p q : Shape)
  | repeated (p : Shape) (least : Nat) (most : Option Nat) (greedy : Bool)
  | group (index : Nat) (p : Shape)
  deriving DecidableEq

namespace Shape

/-! ## Lengths -/

/-- No text of the shape has a character. -/
def onlyEmpty : Shape → Bool
  | .empty => true
  | .text _ => false
  | .chars _ _ => false
  | .look _ => true
  | .seq p q => p.onlyEmpty && q.onlyEmpty
  | .alt p q => p.onlyEmpty && q.onlyEmpty
  | .repeated p _ _ _ => p.onlyEmpty
  | .group _ p => p.onlyEmpty

/-- The characters that a text of the shape has at least; none if a part takes no text at all. -/
def leastLength? : Shape → Option Nat
  | .empty => some 0
  | .text cs => some cs.length
  | .chars s _ => if s.ranges.isEmpty then none else some 1
  | .look _ => some 0
  | .seq p q => do some ((← p.leastLength?) + (← q.leastLength?))
  | .alt p q => do some (min (← p.leastLength?) (← q.leastLength?))
  | .repeated p least _ _ => p.leastLength?.map (· * least)
  | .group _ p => p.leastLength?

/-- Every text of the shape has a character, and there is such a text for every part. -/
def takesText (p : Shape) : Bool :=
  p.leastLength?.any (0 < ·)

/-! ## Ends -/

/-- Every text of the shape stands at the start of the whole text. -/
def isAtStart : Shape → Bool
  | .look a => a == .textStart
  | .seq p q => p.isAtStart || (p.onlyEmpty && q.isAtStart)
  | .alt p q => p.isAtStart && q.isAtStart
  | .repeated p least _ _ => least != 0 && p.isAtStart
  | .group _ p => p.isAtStart
  | _ => false

/-- Every text of the shape stands at the end of the whole text. -/
def isAtEnd : Shape → Bool
  | .look a => a == .textEnd
  | .seq p q => q.isAtEnd || (q.onlyEmpty && p.isAtEnd)
  | .alt p q => p.isAtEnd && q.isAtEnd
  | .repeated p least _ _ => least != 0 && p.isAtEnd
  | .group _ p => p.isAtEnd
  | _ => false

/-! ## Sets -/

/-- One character of a set. A set of one character is a text. -/
def ofSet (s : Unicode.CharSet) : Shape :=
  match s.ranges with
  | [(a, b)] => if a = b then .text [Char.ofNat a] else .chars s (formsOf s)
  | _ => .chars s (formsOf s)

/-! ## Sequences -/

/-- The parts of a sequence. -/
def parts : Shape → List Shape
  | .empty => []
  | .seq p q => p :: q.parts
  | p => [p]

/-- Puts a part before a shape. Texts that meet are one. -/
def attach (p rest : Shape) : Shape :=
  match p, rest with
  | p, .empty => p
  | .text cs, .text ds => .text (cs ++ ds)
  | .text cs, .seq (.text ds) more => .seq (.text (cs ++ ds)) more
  | p, rest => .seq p rest

/-- One shape behind the other. -/
def followedBy : Shape → Shape → Shape
  | .empty, rest => rest
  | .seq p q, rest => p.attach (q.followedBy rest)
  | p, rest => p.attach rest

/-- The sequence of some parts. -/
def ofParts (ps : List Shape) : Shape :=
  ps.foldr attach .empty

/-! ## Alternatives -/

/-- The branches of a choice. -/
def branches : Shape → List Shape
  | .alt p q => p :: q.branches
  | p => [p]

/-- The choice of some branches. -/
def ofBranches : List Shape → Shape
  | [] => .empty
  | [p] => p
  | p :: q :: rest => .alt p (ofBranches (q :: rest))

/-- The character that is all of a text. -/
def char? : Shape → Option Char
  | .text [c] => some c
  | _ => none

/-- The set of a shape that is one. -/
def set? : Shape → Option Unicode.CharSet
  | .chars s _ => some s
  | _ => none

/-- The parts of a shape that is a sequence. -/
def sequence? : Shape → Option (List Shape)
  | .seq p q => some (p :: q.parts)
  | _ => none

/-- How many parts two sequences share at their fronts. -/
def sharedParts : List Shape → List Shape → Nat
  | p :: ps, q :: qs => if p = q then sharedParts ps qs + 1 else 0
  | _, _ => 0

/-- A choice, simplified. What all branches start with is taken out as often as the first number
says, which is enough if it is the number of parts of the first branch. -/
def choose : Nat → List Shape → Shape
  | 0, ps => ofBranches ps
  | n + 1, ps =>
    let flat := ps.flatMap branches
    match flat with
    | [p] => p
    | _ =>
      match flat.mapM char? with
      | some cs => ofSet (.ofRanges (cs.map fun c => (c.toNat, c.toNat)))
      | none =>
        match flat.mapM set? with
        | some sets => ofSet (.ofRanges (sets.flatMap (·.ranges)))
        | none =>
          match flat.mapM sequence? with
          | some (front :: others) =>
            let shared := others.foldl (fun k ps => min k (sharedParts front ps)) front.length
            if shared = 0 then ofBranches flat
            else
              let rests := (front :: others).map fun ps => ofParts (ps.drop shared)
              (ofParts (front.take shared)).followedBy (choose n rests)
          | _ => ofBranches flat

/-- The number of parts of the first of some branches. -/
def firstParts (ps : List Shape) : Nat :=
  ((ps.flatMap branches).head?.map fun p => p.parts.length).getD 0

/-- A choice, simplified. -/
def choice (ps : List Shape) : Shape :=
  choose (firstParts ps + 1) ps

/-! ## Repetitions -/

/-- A repetition, simplified. What takes no character need not be repeated more than once. -/
def times (p : Shape) (least : Nat) (most : Option Nat) (greedy : Bool) : Shape :=
  let least := if p.onlyEmpty then min least 1 else least
  let most := if p.onlyEmpty then some ((most.getD 1).min 1) else most
  if most = some 0 then .empty
  else if least = 1 ∧ most = some 1 then p
  else .repeated p least most greedy

end Shape

/-- The shapes of the alternatives of a pattern. -/
def branchShapes : Pattern → List Shape
  | .empty => [.empty]
  | .chars s => [.ofSet s]
  | .look a => [.look a]
  | .seq p q => [(Shape.choice p.branchShapes).followedBy (Shape.choice q.branchShapes)]
  | .alt p q => Shape.choice p.branchShapes :: q.branchShapes
  | .repeated p least most greedy => [(Shape.choice p.branchShapes).times least most greedy]
  | .group (some i) p => [.group i (Shape.choice p.branchShapes)]
  | .group none p => [Shape.choice p.branchShapes]

/-- The shape of a pattern. -/
def shape (p : Pattern) : Shape :=
  .choice p.branchShapes

end RestSuite.Pattern
