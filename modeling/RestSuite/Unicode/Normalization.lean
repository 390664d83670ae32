import RestSuite.Unicode.CharSet
import RestSuite.Unicode.CombiningClass
import RestSuite.Unicode.Decomposition

/-!
# Canonical composition

The same text may be written with composed characters or with letters and marks. Composition takes
characters apart, puts the marks of every letter in order and then puts together what can be.
-/

namespace RestSuite.Unicode

/-- Pairs of code points that are put together: the result and the two. -/
def compositions : List (Nat × Nat × Nat) :=
  (CharSet.groupsOf compositionTable).filterMap fun entry =>
    match entry with
    | [whole, first, second] => some (whole, first, second)
    | _ => none

/-- Code points with what they are the same as. -/
def decompositions : List (Nat × List Nat) :=
  (CharSet.groupsOf compositionTable ++ CharSet.groupsOf decompositionTable).filterMap fun entry =>
    match entry with
    | whole :: parts => some (whole, parts)
    | [] => none

/-- The sets of the combining classes. -/
def combiningClasses : List (Nat × CharSet) :=
  combiningClassTable.map fun entry => (entry.1, CharSet.ofTable entry.2)

/-- The class by which a mark is ordered; zero for what is no mark of that kind. -/
def combiningClass (n : Nat) : Nat :=
  ((combiningClasses.find? fun entry => CharSet.within entry.2.ranges n).map Prod.fst).getD 0

/-! ## Syllables of Hangul -/

/-- The first syllable. -/
def syllableBase : Nat := 0xac00

/-- The first leading consonant. -/
def leadBase : Nat := 0x1100

/-- The first vowel. -/
def vowelBase : Nat := 0x1161

/-- The place before the first final consonant. -/
def tailBase : Nat := 0x11a7

/-- How many leading consonants there are. -/
def leadCount : Nat := 19

/-- How many vowels there are. -/
def vowelCount : Nat := 21

/-- How many final consonants there are, none counting as one. -/
def tailCount : Nat := 28

/-- A syllable taken apart. -/
def syllableParts? (n : Nat) : Option (List Nat) :=
  let index := n - syllableBase
  if n < syllableBase || leadCount * vowelCount * tailCount ≤ index then none
  else
    let lead := leadBase + index / (vowelCount * tailCount)
    let vowel := vowelBase + index / tailCount % vowelCount
    let tail := index % tailCount
    some (if tail = 0 then [lead, vowel] else [lead, vowel, tailBase + tail])

/-- Two parts of a syllable put together. -/
def syllable? (a b : Nat) : Option Nat :=
  if leadBase ≤ a && a < leadBase + leadCount && vowelBase ≤ b && b < vowelBase + vowelCount then
    some (syllableBase + ((a - leadBase) * vowelCount + (b - vowelBase)) * tailCount)
  else if syllableBase ≤ a && a < syllableBase + leadCount * vowelCount * tailCount &&
      (a - syllableBase) % tailCount = 0 && tailBase < b && b < tailBase + tailCount then
    some (a + (b - tailBase))
  else none

/-! ## Taking apart -/

/-- A code point taken apart. The parts of parts are at most a few levels deep. -/
def decompose : Nat → Nat → List Nat
  | 0, n => [n]
  | depth + 1, n =>
    match syllableParts? n with
    | some parts => parts
    | none =>
      match decompositions.lookup n with
      | some parts => parts.flatMap (decompose depth)
      | none => [n]

/-- Puts a mark, given with its class, behind those of its class or below. -/
def insertMark (mark : Nat × Nat) : List (Nat × Nat) → List (Nat × Nat)
  | [] => [mark]
  | other :: rest =>
    if mark.1 < other.1 then mark :: other :: rest else other :: insertMark mark rest

/-- Puts the marks of every letter in order. `marks` are those since the last letter. -/
def orderMarks (marks : List (Nat × Nat)) : List Nat → List Nat
  | [] => marks.map Prod.snd
  | n :: rest =>
    let k := combiningClass n
    if k = 0 then marks.map Prod.snd ++ n :: orderMarks [] rest
    else orderMarks (insertMark (k, n) marks) rest

/-! ## Putting together -/

/-- Two code points put together. -/
def composed? (a b : Nat) : Option Nat :=
  match syllable? a b with
  | some n => some n
  | none => (compositions.find? fun c => c.2.1 = a && c.2.2 = b).map Prod.fst

/-- Puts a letter together with the marks behind it, as far as nothing stands between. `kept` are
the marks that stay, the last one first, and `lastClass` is the class of the last of them. -/
def composeFrom (letter : Nat) (kept : List Nat) (lastClass : Nat) : List Nat → List Nat
  | [] => letter :: kept.reverse
  | n :: rest =>
    let k := combiningClass n
    let free := kept.isEmpty || lastClass < k
    match if free then composed? letter n else none with
    | some whole => composeFrom whole kept lastClass rest
    | none =>
      if k = 0 then letter :: kept.reverse ++ composeFrom n [] 0 rest
      else composeFrom letter (n :: kept) k rest

/-- Puts together what can be; marks at the front belong to no letter. -/
def compose : List Nat → List Nat
  | [] => []
  | n :: rest =>
    if combiningClass n = 0 then composeFrom n [] 0 rest else n :: compose rest

/-- The composed form of a text. -/
def canonical (cs : List Char) : List Char :=
  let parts := cs.flatMap fun c => decompose 4 c.toNat
  (compose (orderMarks [] parts)).map Char.ofNat

end RestSuite.Unicode
