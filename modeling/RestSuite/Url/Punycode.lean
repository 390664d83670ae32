/-!
# Punycode

Writes a label of any characters with letters, digits and hyphens. The ASCII characters come first.
The others are put in one by one, in ascending order and those of one kind from left to right; how
far each insertion lies behind the one before it is a number. The digits of these numbers have
weights that adapt to how large the last number was.
-/

namespace RestSuite.Url.Punycode

/-! ## Digits -/

/-- The digits, by their values. -/
def alphabet : List Char := "abcdefghijklmnopqrstuvwxyz0123456789".toList

/-- The number of digits. -/
def base : Nat := 36

/-- The digit of a value. -/
def digit (n : Nat) : Char :=
  alphabet[n]?.getD '0'

/-- The value of a digit. -/
def value? (c : Char) : Option Nat :=
  alphabet.idxOf? c.toLower

/-- The threshold of the digit at a place, where places are counted in steps of the base. A digit
below its threshold ends a number. -/
def threshold (place bias : Nat) : Nat :=
  max 1 (min 26 (place - bias))

theorem threshold_bounds (place bias : Nat) :
    1 ≤ threshold place bias ∧ threshold place bias ≤ 26 := by
  unfold threshold
  omega

/-- Divides a number until it is small, and adds the base to a count each time. -/
def shrink (n count : Nat) : Nat × Nat :=
  if 455 < n then shrink (n / 35) (count + base) else (n, count)
  termination_by n
  decreasing_by omega

/-- The bias after a number, when a label has so many characters. The first number counts less. -/
def adapt (number count : Nat) (first : Bool) : Nat :=
  let scaled := if first then number / 700 else number / 2
  let (rest, steps) := shrink (scaled + scaled / count) 0
  steps + base * rest / (rest + 38)

/-- The digits of a number, the least one first. -/
def digits (bias place n : Nat) : List Char :=
  let t := threshold place bias
  if n < t then [digit n]
  else digit (t + (n - t) % (base - t)) :: digits bias (place + base) ((n - t) / (base - t))
  termination_by n
  decreasing_by
    have positive := (threshold_bounds place bias).1
    have smaller := Nat.div_le_self (n - threshold place bias) (base - threshold place bias)
    omega

/-- Numbers and the weights of their digits stay below this. -/
def bound : Nat := 0x100000000

/-- Adds the digits of a number to `n`; also returns what follows them. -/
def addDigits? (bias place weight n : Nat) : List Char → Option (Nat × List Char)
  | [] => none
  | c :: rest =>
    match value? c with
    | none => none
    | some d =>
      if bound ≤ n + d * weight then none
      else if d < threshold place bias then some (n + d * weight, rest)
      else if bound ≤ weight * (base - threshold place bias) then none
      else
        addDigits? bias (place + base) (weight * (base - threshold place bias)) (n + d * weight)
          rest

theorem length_lt_of_addDigits? {bias place weight n : Nat} {cs : List Char}
    {found : Nat × List Char} (h : addDigits? bias place weight n cs = some found) :
    found.2.length < cs.length := by
  induction cs generalizing place weight n with
  | nil => simp [addDigits?] at h
  | cons c rest ih =>
    rw [addDigits?] at h
    split at h
    · cases h
    · split at h
      · cases h
      · split at h
        · cases h
          simp
        · split at h
          · cases h
          · have := ih h
            simp only [List.length_cons]
            omega

/-! ## Insertions -/

/-- A character that is put into a label: its code point and how many of the characters that are
there already stand before it. -/
structure Insertion where
  point : Nat
  place : Nat

/-- The insertions of one character, which come after those of all lesser ones. `before` counts
what is there already. -/
def insertionsOf (point before : Nat) : List Char → List Insertion
  | [] => []
  | c :: rest =>
    if point < c.toNat then insertionsOf point before rest
    else if c.toNat = point then ⟨point, before⟩ :: insertionsOf point (before + 1) rest
    else insertionsOf point (before + 1) rest

/-- The insertions that make a label out of its ASCII characters. -/
def insertions (label : List Char) : List Insertion :=
  let points := ((label.map Char.toNat).filter (0x80 ≤ ·)).mergeSort
  points.eraseReps.flatMap fun point => insertionsOf point 0 label

/-- Where the next insertion is counted from. -/
structure Cursor where
  point : Nat
  place : Nat
  bias : Nat
  first : Bool

/-- Before all insertions. -/
def Cursor.start : Cursor := ⟨0x80, 0, 72, true⟩

/-- Behind an insertion that took a number and made a label of so many characters. -/
def Cursor.behind (c : Cursor) (i : Insertion) (number count : Nat) : Cursor :=
  ⟨i.point, i.place + 1, adapt number count c.first, false⟩

/-- Writes the insertions into a label of so many characters. -/
def writeInsertions (count : Nat) (c : Cursor) : List Insertion → List Char
  | [] => []
  | i :: rest =>
    let number := (i.point - c.point) * (count + 1) + i.place - c.place
    digits c.bias base number ++
      writeInsertions (count + 1) (c.behind i number (count + 1)) rest

/-- The characters of the longest label that is written. -/
def longestWritten : Nat := 1000

/-- A label in letters, digits and hyphens. Labels beyond all use are not written. -/
def encode? (label : List Char) : Option (List Char) :=
  let basic := label.filter fun c => c.toNat < 0x80
  if longestWritten < label.length then none
  else
    some (basic ++ (if basic.isEmpty then [] else ['-']) ++
      writeInsertions basic.length .start (insertions label))

/-- Reads insertions and makes them. -/
def insertAll (label : List Char) (c : Cursor) (cs : List Char) : Option (List Char) :=
  match cs with
  | [] => some label
  | d :: rest =>
    match h : addDigits? c.bias base 1 c.place (d :: rest) with
    | none => none
    | some (n, after) =>
      let count := label.length + 1
      let i : Insertion := ⟨c.point + n / count, n % count⟩
      if i.point.isValidChar then
        have := length_lt_of_addDigits? h
        insertAll (label.insertIdx i.place (Char.ofNat i.point))
          (c.behind i (n - c.place) count) after
      else none
  termination_by cs.length
  decreasing_by assumption

/-- The characters of the longest text that is read. -/
def longestRead : Nat := 2000

/-- The label that is written in letters, digits and hyphens. The last hyphen ends the ASCII
characters; where there are none before it, it is read as a digit and refused. -/
def decode? (cs : List Char) : Option (List Char) :=
  let behind := (cs.reverse.takeWhile (· != '-')).reverse
  let basic := cs.take (cs.length - behind.length - 1)
  if longestRead < cs.length || cs.any (fun c => 0x80 ≤ c.toNat) then none
  else insertAll basic .start (if basic.isEmpty then cs else behind)

end RestSuite.Url.Punycode
