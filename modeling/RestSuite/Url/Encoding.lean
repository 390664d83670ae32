/-!
# Percent encoding

A byte that may not stand in a part of a URL is written as a percent sign and two digits. Which
bytes that are depends on the part; control characters and everything beyond ASCII are among them
everywhere.
-/

namespace RestSuite.Url

/-- The digit of a value below sixteen, in upper case. -/
def upperHexDigit (n : Nat) : Char :=
  if n < 10 then Char.ofNat (0x30 + n) else Char.ofNat (0x37 + n)

/-- A byte as a percent sign and two digits. -/
def encodeByte (b : UInt8) : List Char :=
  ['%', upperHexDigit (b.toNat / 16), upperHexDigit (b.toNat % 16)]

/-- A character that is encoded in every part. -/
def isControl (c : Char) : Bool :=
  c.toNat < 0x20 || 0x7e < c.toNat

/-- Encodes control characters and those in a list. -/
def encode (set : List Char) (cs : List Char) : List Char :=
  cs.flatMap fun c =>
    if isControl c || set.contains c then (String.singleton c).toUTF8.toList.flatMap encodeByte
    else [c]

/-- The characters encoded in a fragment. -/
def fragmentSet : List Char := [' ', '"', '<', '>', '\x60']

/-- The characters encoded in a query. -/
def querySet : List Char := [' ', '"', '#', '<', '>']

/-- The characters encoded in a query of a special scheme. -/
def specialQuerySet : List Char := '\'' :: querySet

/-- The characters encoded in a path. -/
def pathSet : List Char := fragmentSet ++ ['#', '?', '{', '}']

/-- The characters encoded in a user name or password. -/
def userInfoSet : List Char :=
  pathSet ++ ['/', ':', ';', '=', '@', '[', '\\', ']', '^', '|']

/-! ## Decoding -/

/-- The value of a hexadecimal digit. -/
def hexValue? (b : UInt8) : Option Nat :=
  let n := b.toNat
  if 0x30 ≤ n ∧ n ≤ 0x39 then some (n - 0x30)
  else if 0x41 ≤ n ∧ n ≤ 0x46 then some (n - 0x37)
  else if 0x61 ≤ n ∧ n ≤ 0x66 then some (n - 0x57)
  else none

/-- Turns percent signs with two digits back into bytes; others stand for themselves. -/
def decodeBytes : List UInt8 → List UInt8
  | 0x25 :: a :: b :: rest =>
    match hexValue? a, hexValue? b with
    | some x, some y => UInt8.ofNat (16 * x + y) :: decodeBytes rest
    | _, _ => 0x25 :: decodeBytes (a :: b :: rest)
  | b :: rest => b :: decodeBytes rest
  | [] => []

/-- The text that an encoded text stands for, if its bytes are well-formed. -/
def decode? (cs : List Char) : Option String :=
  String.fromUTF8? ⟨(decodeBytes (String.ofList cs).toUTF8.toList).toArray⟩

end RestSuite.Url
