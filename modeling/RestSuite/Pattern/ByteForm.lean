import RestSuite.Unicode.CharSet

/-!
# Byte forms of characters

Characters beyond ASCII take several bytes. A set of characters is a list of forms: for every byte
the values it may have. Characters of neighbouring code points have a form in common as long as
their bytes vary from the back.
-/

namespace RestSuite.Pattern

/-- The form of some characters: for every byte the first and the last value. -/
abbrev ByteForm := List (Nat × Nat)

/-- The bytes of a code point. -/
def encodedBytes (n : Nat) : List Nat :=
  if n < 0x80 then [n]
  else if n < 0x800 then [0xc0 + n / 0x40, 0x80 + n % 0x40]
  else if n < 0x10000 then [0xe0 + n / 0x1000, 0x80 + n / 0x40 % 0x40, 0x80 + n % 0x40]
  else
    [0xf0 + n / 0x40000, 0x80 + n / 0x1000 % 0x40, 0x80 + n / 0x40 % 0x40, 0x80 + n % 0x40]

/-- Cuts a range at a place where the forms change. -/
def cutRange? (a b : Nat) : Option Nat :=
  -- The greatest code points of one, two and three bytes.
  match [0x7f, 0x7ff, 0xffff].find? fun limit => decide (a ≤ limit) && decide (limit < b) with
  | some limit => some limit
  | none =>
    if b < 0x80 then none
    else
      [0x40, 0x1000, 0x40000].findSome? fun block =>
        if a / block = b / block then none
        else if a % block ≠ 0 then some (a / block * block + block - 1)
        else if b % block ≠ block - 1 then some (b / block * block - 1)
        else none

/-- The forms of the characters of a range; a range is cut at most a few dozen times. -/
def byteForms : Nat → Nat → Nat → List ByteForm
  | 0, a, b => [(encodedBytes a).zip (encodedBytes b)]
  | n + 1, a, b =>
    match cutRange? a b with
    | some m => byteForms n a m ++ byteForms n (m + 1) b
    | none => [(encodedBytes a).zip (encodedBytes b)]

/-- A range without the code points that are no characters. -/
def withoutSurrogates (r : Nat × Nat) : List (Nat × Nat) :=
  [(r.1, min r.2 0xd7ff), (max r.1 0xe000, r.2)].filter fun part => part.1 ≤ part.2

/-- The forms of a set, in ascending order. -/
def formsOf (s : Unicode.CharSet) : List ByteForm :=
  (s.ranges.flatMap withoutSurrogates).flatMap fun r => byteForms 16 r.1 r.2

end RestSuite.Pattern
