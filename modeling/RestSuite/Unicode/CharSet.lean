import RestSuite.Unicode.Fold

/-!
# Sets of characters

A set is a list of ranges of code points, in order and apart from each other. Tables of the Unicode
standard are read into sets; sets are joined, met, complemented and closed under letter case.
-/

namespace RestSuite.Unicode

/-- A set of characters, as ranges in ascending order. -/
structure CharSet where
  ranges : List (Nat × Nat)
  deriving DecidableEq, Repr

namespace CharSet

/-- The greatest code point. -/
def last : Nat := 0x10ffff

/-- The set of no character. -/
def none : CharSet := ⟨[]⟩

/-- The set of every character. -/
def all : CharSet := ⟨[(0, last)]⟩

/-- The set of one character. -/
def single (c : Char) : CharSet := ⟨[(c.toNat, c.toNat)]⟩

/-- The characters from one to another. -/
def between (a b : Char) : CharSet := ⟨[(a.toNat, b.toNat)]⟩

/-- A code point lies in one of the ascending ranges. -/
def within : List (Nat × Nat) → Nat → Bool
  | [], _ => false
  | (a, b) :: rest, n => if n < a then false else if n ≤ b then true else within rest n

/-- The character is in the set. -/
def contains (s : CharSet) (c : Char) : Bool :=
  within s.ranges c.toNat

/-! ## Operations -/

/-- Joins ranges that touch; they have to be sorted by their first code points. -/
def merge : List (Nat × Nat) → List (Nat × Nat)
  | [] => []
  | (a, b) :: rest =>
    match merge rest with
    | [] => [(a, b)]
    | (c, d) :: more => if c ≤ b + 1 then (a, max b d) :: more else (a, b) :: (c, d) :: more

/-- The set of all characters in some ranges. -/
def ofRanges (ranges : List (Nat × Nat)) : CharSet :=
  ⟨merge (ranges.mergeSort fun x y => decide (x.1 ≤ y.1))⟩

/-- The characters in either set. -/
def union (s t : CharSet) : CharSet :=
  ofRanges (s.ranges ++ t.ranges)

/-- The ranges between ascending ranges, from a code point on. -/
def gaps (start : Nat) : List (Nat × Nat) → List (Nat × Nat)
  | [] => if start ≤ last then [(start, last)] else []
  | (a, b) :: rest =>
    if start < a then (start, a - 1) :: gaps (b + 1) rest else gaps (b + 1) rest

/-- The characters that are not in the set. -/
def complement (s : CharSet) : CharSet :=
  ⟨gaps 0 s.ranges⟩

/-- The characters in both sets. -/
def intersection (s t : CharSet) : CharSet :=
  complement (union (complement s) (complement t))

/-- The characters in the first set only. -/
def difference (s t : CharSet) : CharSet :=
  intersection s (complement t)

/-- The characters in one set only. -/
def symmetricDifference (s t : CharSet) : CharSet :=
  union (difference s t) (difference t s)

/-- No character is above the ASCII ones. -/
def isAscii (s : CharSet) : Bool :=
  s.ranges.all fun r => r.2 ≤ 0x7f

/-! ## Reading tables -/

/-- The value of a hexadecimal digit. -/
def hexDigit? (c : Char) : Option Nat :=
  if '0' ≤ c ∧ c ≤ '9' then some (c.toNat - '0'.toNat)
  else if 'A' ≤ c ∧ c ≤ 'F' then some (c.toNat - 'A'.toNat + 10)
  else if 'a' ≤ c ∧ c ≤ 'f' then some (c.toNat - 'a'.toNat + 10)
  else Option.none

/-- What has been read of a table: the ranges, last first, and the number in hand. -/
structure TableReader where
  ranges : List (Nat × Nat)
  /-- The first code point of a range whose last one is being read. -/
  first : Option Nat
  number : Option Nat

/-- Ends the range in hand. -/
def TableReader.flush (r : TableReader) : TableReader :=
  match r.first, r.number with
  | some a, some b => ⟨(a, b) :: r.ranges, Option.none, Option.none⟩
  | Option.none, some b => ⟨(b, b) :: r.ranges, Option.none, Option.none⟩
  | _, Option.none => r

/-- Reads one character of a table. -/
def TableReader.step (r : TableReader) (c : Char) : TableReader :=
  match hexDigit? c with
  | some d => { r with number := some (r.number.getD 0 * 16 + d) }
  | Option.none =>
    if c = '-' then { r with first := r.number, number := Option.none } else r.flush

/-- The set that a table of ascending ranges lists. -/
def ofTable (table : String) : CharSet :=
  let read := (table.foldl TableReader.step ⟨[], Option.none, Option.none⟩).flush
  ⟨read.ranges.reverse⟩

/-! ## Letter case -/

/-- Groups of code points that commas separate. -/
def groupsOf (table : String) : List (List Nat) :=
  (table.splitOn ",").map fun group => (ofTable group).ranges.map Prod.fst

/-- The groups of characters that differ in case only. -/
def foldGroups : List (List Nat) :=
  groupsOf foldTable

/-- Adds every character that differs in case only from one of the set. -/
def foldCase (s : CharSet) : CharSet :=
  let added := foldGroups.flatMap fun group =>
    if group.any (within s.ranges) then group.map fun n => (n, n) else []
  if added.isEmpty then s else ofRanges (s.ranges ++ added)

/-- Adds the other case of every ASCII letter of the set. -/
def foldAsciiCase (s : CharSet) : CharSet :=
  let lower := intersection s (between 'a' 'z')
  let upper := intersection s (between 'A' 'Z')
  ofRanges (s.ranges ++ lower.ranges.map (fun r => (r.1 - 32, r.2 - 32)) ++
    upper.ranges.map (fun r => (r.1 + 32, r.2 + 32)))

end CharSet

end RestSuite.Unicode
