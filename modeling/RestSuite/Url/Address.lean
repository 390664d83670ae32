import RestSuite.Url.Basic

/-!
# Addresses

Hosts that are numbers. An IPv4 address has up to four numbers, in decimal, octal or hexadecimal;
the last one fills all bytes that are left. An IPv6 address has eight pieces, the last two of which
may be written as an IPv4 address; two colons stand for as many zeros as are missing.
-/

namespace RestSuite.Url

/-! ## IPv4 -/

/-- The value of a digit. -/
def digitValue? (c : Char) : Option Nat :=
  if '0' ≤ c ∧ c ≤ '9' then some (c.toNat - 0x30)
  else if 'a' ≤ c ∧ c ≤ 'f' then some (c.toNat - 0x57)
  else if 'A' ≤ c ∧ c ≤ 'F' then some (c.toNat - 0x37)
  else none

/-- A number to a base. No digits stand for zero. -/
def numberInBase? (base : Nat) (digits : List Char) : Option Nat :=
  digits.foldl (fun n c => do
    let n ← n
    let d ← digitValue? c
    if d < base then some (n * base + d) else none) (some 0)

/-- A number of an IPv4 address; its start tells the base. -/
def ipv4Number? (cs : List Char) : Option Nat :=
  match cs with
  | [] => none
  | '0' :: 'x' :: digits | '0' :: 'X' :: digits => numberInBase? 16 digits
  | '0' :: d :: digits => numberInBase? 8 (d :: digits)
  | digits => numberInBase? 10 digits

/-- Cuts a text at every place where a character stands. -/
def splitAtChar (mark : Char) : List Char → List (List Char)
  | [] => [[]]
  | c :: rest =>
    match splitAtChar mark rest with
    | [] => [[c]]
    | part :: parts => if c = mark then [] :: part :: parts else (c :: part) :: parts

/-- The parts of a name between dots, without an empty one at the end. -/
def dottedParts (cs : List Char) : List (List Char) :=
  let parts := splitAtChar '.' cs
  if 2 ≤ parts.length && parts.getLast? == some [] then parts.dropLast else parts

/-- A name whose last part is a number has to be an address. -/
def endsInNumber (cs : List Char) : Bool :=
  match (dottedParts cs).getLast? with
  | none => false
  | some last =>
    (!last.isEmpty && last.all fun c => '0' ≤ c && c ≤ '9') || (ipv4Number? last).isSome

/-- How many numbers some octets tell apart. -/
def octetRange : Nat → Nat
  | 0 => 1
  | n + 1 => 256 * octetRange n

/-- Reads an IPv4 address. The last number stands for all octets that are left. -/
def readIpv4 (cs : List Char) : Except UrlError Nat :=
  match (dottedParts cs).mapM ipv4Number? with
  | none => .error .invalidIpv4
  | some numbers =>
    let first := numbers.dropLast
    let last := numbers.getLast?.getD 0
    let room := octetRange (4 - first.length)
    if 3 < first.length || first.any (255 < ·) || room ≤ last then .error .invalidIpv4
    else .ok (first.foldl (fun n octet => n * 256 + octet) 0 * room + last)

/-! ## IPv6 -/

/-- A number of an IPv4 address at the end of an IPv6 address: decimal, without leading zeros. -/
def embeddedNumber? (cs : List Char) : Option Nat :=
  match cs with
  | [] => none
  | [c] => numberInBase? 10 [c]
  | '0' :: _ => none
  | digits => do
    let n ← numberInBase? 10 digits
    if n ≤ 255 then some n else none

/-- The two pieces of an IPv4 address at the end. -/
def embeddedPieces? (cs : List Char) : Option (List Nat) := do
  match ← (splitAtChar '.' cs).mapM embeddedNumber? with
  | [a, b, c, d] => some [a * 256 + b, c * 256 + d]
  | _ => none

/-- A piece: one to four hexadecimal digits. -/
def piece? (cs : List Char) : Option Nat :=
  if cs.isEmpty || 4 < cs.length then none else numberInBase? 16 cs

/-- Pieces with colons between. Only the last may be an IPv4 address, and only where one may
stand. -/
def pieces? (addressAllowed : Bool) : List (List Char) → Option (List Nat)
  | [] => some []
  | [last] =>
    if addressAllowed && last.contains '.' then embeddedPieces? last
    else (piece? last).map fun p => [p]
  | part :: rest => do
    let p ← piece? part
    let more ← pieces? addressAllowed rest
    some (p :: more)

/-- Cuts a text at the first two colons. -/
def cutAtColons? : List Char → Option (List Char × List Char)
  | ':' :: ':' :: rest => some ([], rest)
  | c :: rest => (cutAtColons? rest).map fun (before, behind) => (c :: before, behind)
  | [] => none

/-- The pieces of a text that may be empty. -/
def optionalPieces? (addressAllowed : Bool) (cs : List Char) : Option (List Nat) :=
  if cs.isEmpty then some [] else pieces? addressAllowed (splitAtChar ':' cs)

/-- Reads an IPv6 address. -/
def readIpv6 (cs : List Char) : Except UrlError (List Nat) :=
  let found : Option (List Nat) :=
    match cutAtColons? cs with
    | none => do
      let all ← pieces? true (splitAtChar ':' cs)
      if all.length = 8 then some all else none
    | some (before, behind) => do
      let front ← optionalPieces? false before
      let back ← optionalPieces? true behind
      if 7 < front.length + back.length then none
      else some (front ++ List.replicate (8 - front.length - back.length) 0 ++ back)
  match found with
  | some pieces => .ok pieces
  | none => .error .invalidIpv6

end RestSuite.Url
