import RestSuite.Json.Basic
import RestSuite.Json.SyntaxError

/-!
# Reading JSON

A reader over symbols, so that texts and raw bytes go through one definition. An object that repeats
a name keeps the first place and the last value of that name. Containers nest at most 127 deep.

Numbers are read digit by digit into a significand of 64 bits; digits that no longer fit are
dropped and counted. A number with a fraction or an exponent, or one whose digits do not fit, is a
float: the significand scaled by one exact power of ten.
-/

namespace RestSuite.Json

open Text (Symbol)

/-! ## Blanks and words -/

/-- A blank between tokens. -/
def isGap (s : Symbol) : Bool :=
  s == .char ' ' || s == .char '\n' || s == .char '\t' || s == .char '\r'

/-- The symbols after the blanks at the front. -/
def skipGaps (input : List Symbol) : List Symbol :=
  input.dropWhile isGap

/-- Reads the rest of a word whose first character was read. -/
def readWord {α : Type} (value : α) : List Char → List Symbol → Except Stop (α × List Symbol)
  | [], input => .ok (value, input)
  | _ :: _, [] => stopBefore .endInValue []
  | c :: word, s :: rest =>
    if s = .char c then readWord value word rest else stopInside .wrongWord 1 (s :: rest)

/-! ## Strings -/

/-- The value of a hexadecimal digit. -/
def hexValue? (s : Symbol) : Option Nat :=
  match s with
  | .stray _ => none
  | .char c =>
    if '0' ≤ c ∧ c ≤ '9' then some (c.toNat - '0'.toNat)
    else if 'a' ≤ c ∧ c ≤ 'f' then some (c.toNat - 'a'.toNat + 10)
    else if 'A' ≤ c ∧ c ≤ 'F' then some (c.toNat - 'A'.toNat + 10)
    else none

/-- The value of four hexadecimal digits at the front. -/
def fourHex? : List Symbol → Option (Nat × List Symbol)
  | a :: b :: c :: d :: rest => do
    let a ← hexValue? a
    let b ← hexValue? b
    let c ← hexValue? c
    let d ← hexValue? d
    some (((a * 16 + b) * 16 + c) * 16 + d, rest)
  | _ => none

theorem length_lt_of_fourHex? {input rest : List Symbol} {n : Nat}
    (h : fourHex? input = some (n, rest)) : rest.length < input.length := by
  unfold fourHex? at h
  split at h
  · next a b c d r =>
    simp only [Option.bind_eq_bind, Option.bind_eq_some_iff, Option.some.injEq, Prod.mk.injEq] at h
    obtain ⟨_, _, _, _, _, _, _, _, _, rfl⟩ := h
    simp only [List.length_cons]
    omega
  · simp at h

/-- Reads the four digits of an escape. Four bytes have to follow, whatever they are. -/
def readFourHex (input : List Symbol) : Except Stop { r : Nat × List Symbol //
    r.2.length < input.length } :=
  if Symbol.sizeOfAll (input.take 4) < 4 then .error ⟨.endInString, 0⟩
  else
    match h : fourHex? input with
    | some r => .ok ⟨r, length_lt_of_fourHex? h⟩
    | none => .error ⟨.invalidEscape, Symbol.sizeOfAll input - 4⟩

/-- What a backslash and one more character stand for, the escapes with digits apart. -/
def shortEscape? (c : Char) : Option Char :=
  if c = '"' then some '"'
  else if c = '\\' then some '\\'
  else if c = '/' then some '/'
  else if c = 'b' then some '\x08'
  else if c = 'f' then some '\x0c'
  else if c = 'n' then some '\n'
  else if c = 'r' then some '\r'
  else if c = 't' then some '\t'
  else none

/-- Reads the second half of a surrogate pair, which has to be an escape of its own. -/
def readLowSurrogate (high : Nat) (input : List Symbol) : Except Stop { r : Char × List Symbol //
    r.2.length < input.length } :=
  match input with
  | [] => stopBefore .endInString []
  | slash :: afterSlash =>
    if slash = .char '\\' then
      match afterSlash with
      | [] => stopBefore .endInString []
      | u :: digits =>
        if u = .char 'u' then do
          let ⟨(low, rest), shorter⟩ ← readFourHex digits
          if 0xdc00 ≤ low ∧ low ≤ 0xdfff then
            let code := (high - 0xd800) * 0x400 + (low - 0xdc00) + 0x10000
            .ok ⟨(Char.ofNat code, rest), by simp only [List.length_cons] at shorter ⊢; omega⟩
          else stopBefore .unpairedSurrogate rest
        else stopInside .secondEscapeMissing 1 (u :: digits)
    else stopInside .secondEscapeMissing 1 (slash :: afterSlash)

/-- Reads an escape whose backslash was read. -/
def readEscape (input : List Symbol) : Except Stop { r : Char × List Symbol //
    r.2.length < input.length } :=
  match input with
  | [] => stopBefore .endInString []
  | .stray b :: rest => stopInside .invalidEscape 1 (.stray b :: rest)
  | .char c :: rest =>
    if c = 'u' then do
      let ⟨(code, left), shorter⟩ ← readFourHex rest
      if 0xdc00 ≤ code ∧ code ≤ 0xdfff then stopBefore .unpairedSurrogate left
      else if 0xd800 ≤ code ∧ code ≤ 0xdbff then
        let ⟨(d, left'), shorter'⟩ ← readLowSurrogate code left
        .ok ⟨(d, left'), by simp only [List.length_cons] at shorter shorter' ⊢; omega⟩
      else .ok ⟨(Char.ofNat code, left), by simp only [List.length_cons] at shorter ⊢; omega⟩
    else
      match shortEscape? c with
      | some d => .ok ⟨(d, rest), by simp⟩
      | none => stopInside .invalidEscape 1 (.char c :: rest)

/-- Reads a string whose opening quote was read. `done` holds its characters so far, last first,
and `stray` the place after its first stray byte: a string that has one is refused, but only once
it is closed. -/
def readString (done : List Char) (stray : Option Nat) (input : List Symbol) :
    Except Stop (String × List Symbol) :=
  match input with
  | [] => stopBefore .endInString []
  | .stray _ :: rest => readString done (stray <|> some (Symbol.sizeOfAll rest)) rest
  | .char c :: rest =>
    if c = '"' then
      match stray with
      | none => .ok (String.ofList done.reverse, rest)
      | some unread => .error ⟨.strayByte, unread⟩
    else if c = '\\' then
      match readEscape rest with
      | .error stop => .error stop
      | .ok ⟨(d, left), shorter⟩ =>
        have : left.length < rest.length := shorter
        readString (d :: done) stray left
    else if c.toNat < 0x20 then stopInside .controlCharacter 1 (.char c :: rest)
    else readString (c :: done) stray rest
  termination_by input.length
  decreasing_by
    · simp
    · simp only [List.length_cons]; omega
    · simp

/-! ## Numbers -/

/-- The value of a decimal digit. -/
def digit? (s : Symbol) : Option Nat :=
  match s with
  | .char c => if '0' ≤ c ∧ c ≤ '9' then some (c.toNat - '0'.toNat) else none
  | .stray _ => none

/-- The digits at the front and what follows them. -/
def takeDigits : List Symbol → List Nat × List Symbol
  | [] => ([], [])
  | s :: rest =>
    match digit? s with
    | some d =>
      let (ds, left) := takeDigits rest
      (d :: ds, left)
    | none => ([], s :: rest)

/-- Adds digits to a significand as long as it fits 64 bits; also returns how many did not fit. -/
def accumulate (significand : Nat) : List Nat → Nat × Nat
  | [] => (significand, 0)
  | d :: ds =>
    if significand * 10 + d < 0x10000000000000000 then accumulate (significand * 10 + d) ds
    else (significand, ds.length + 1)

/-- A power of ten as a float. -/
def powerOfTen (n : Nat) : Float :=
  Float.ofScientific 1 false n

/-- Divides by `1e308` a number of times, or until nothing is left. -/
def descend (x : Float) : Nat → Float
  | 0 => x
  | n + 1 => if x == 0 then x else descend (x / powerOfTen 308) n

/-- The float of a significand and an exponent of ten, or nothing if it is too large: the nearest
float of the significand, multiplied or divided by the nearest float of the power. -/
def scaledFloat? (negative : Bool) (significand : Nat) (exponent : Int) : Option Float :=
  let signed (x : Float) := if negative then -x else x
  let x := (UInt64.ofNat significand).toFloat
  match exponent with
  | .ofNat n =>
    if n ≤ 308 then
      let y := x * powerOfTen n
      if y.isInf then none else some (signed y)
    else if x == 0 then some (signed x)
    else none
  | .negSucc n =>
    -- The exponent is `-(n + 1)`; whole steps of 308 come first.
    let steps := n / 308
    some (signed (descend x steps / powerOfTen (n + 1 - 308 * steps)))

/-- Whether an exponent's digits stay below `2 ^ 31`; if not, how many of them were read when
they passed it. -/
def exponentValue (value : Nat) (read : Nat) : List Nat → Except Nat Nat
  | [] => .ok value
  | d :: ds =>
    if value * 10 + d < 0x80000000 then exponentValue (value * 10 + d) (read + 1) ds
    else .error (read + 1)

/-- Reads the exponent of a number whose `e` was read and makes the float. -/
def readExponent (negative : Bool) (significand : Nat) (scale : Int) (input : List Symbol) :
    Except Stop (Number × List Symbol) :=
  let (down, digits) :=
    match input with
    | .char '+' :: rest => (false, rest)
    | .char '-' :: rest => (true, rest)
    | rest => (false, rest)
  match takeDigits digits with
  | ([], []) => stopBefore .endInValue []
  | ([], left) => stopInside .invalidNumber 1 left
  | (ds, left) =>
    match exponentValue 0 0 ds with
    | .error read =>
      if significand ≠ 0 ∧ ¬ down then stopInside .numberOutOfRange read digits
      else .ok (.real (if negative then -0.0 else 0.0), left)
    | .ok n =>
      match scaledFloat? negative significand (if down then scale - n else scale + n) with
      | some x => .ok (.real x, left)
      | none => stopBefore .numberOutOfRange left

/-- Makes the float of a number without an exponent, or goes on to its exponent. -/
def finishFloat (negative : Bool) (significand : Nat) (scale : Int) (input : List Symbol) :
    Except Stop (Number × List Symbol) :=
  match input with
  | .char 'e' :: rest | .char 'E' :: rest => readExponent negative significand scale rest
  | _ =>
    match scaledFloat? negative significand scale with
    | some x => .ok (.real x, input)
    | none => stopBefore .numberOutOfRange input

/-- The number of an integer whose digits all fitted. -/
def integerNumber (negative : Bool) (significand : Nat) : Number :=
  if negative then
    if h : 0 < significand ∧ significand ≤ 0x8000000000000000 then
      .integer (-(significand : Int)) (by omega)
    else .real (-(UInt64.ofNat significand).toFloat)
  else if significand < 0x10000000000000000 then .ofNat significand
  else .real (UInt64.ofNat significand).toFloat

/-- Reads a number whose sign was read. -/
def readNumber (negative : Bool) (input : List Symbol) : Except Stop (Number × List Symbol) :=
  match takeDigits input with
  | ([], []) => stopBefore .endInValue []
  | ([], left) => stopInside .invalidNumber 1 left
  | (0 :: _ :: _, _) => stopInside .invalidNumber 2 input
  | (whole, left) =>
    let (significand, dropped) := accumulate 0 whole
    match left with
    | .char '.' :: rest =>
      match takeDigits rest with
      | ([], []) => stopBefore .endInValue []
      | ([], left') => stopInside .invalidNumber 1 left'
      | (fraction, left') =>
        let (significand', dropped') := accumulate significand fraction
        finishFloat negative significand' (dropped - (fraction.length - dropped' : Nat)) left'
    | .char 'e' :: rest | .char 'E' :: rest => readExponent negative significand dropped rest
    | _ =>
      if dropped = 0 then .ok (integerNumber negative significand, left)
      else finishFloat negative significand dropped left

/-! ## Values -/

/-- The map of members read in order: a name that comes again gives its value to the first. -/
def collect (members : List (String × Json)) : List (String × Json) :=
  members.foldl (fun m entry => OrderedMap.put m entry.1 entry.2) []

mutual

/-- Reads a value in which `depth` more containers may nest. The fuel bounds the calls; twice the
number of symbols and two more is always enough. -/
def readValue (fuel depth : Nat) (input : List Symbol) : Except Stop (Json × List Symbol) :=
  match fuel with
  | 0 => stopBefore .tooDeep input
  | fuel + 1 =>
    match skipGaps input with
    | [] => stopBefore .endInValue []
    | .stray b :: rest => stopInside .noValue 1 (.stray b :: rest)
    | .char c :: rest =>
      if c = 'n' then readWord .null ['u', 'l', 'l'] rest
      else if c = 't' then readWord (.bool true) ['r', 'u', 'e'] rest
      else if c = 'f' then readWord (.bool false) ['a', 'l', 's', 'e'] rest
      else if c = '-' then do
        let (n, left) ← readNumber true rest
        .ok (.number n, left)
      else if '0' ≤ c ∧ c ≤ '9' then do
        let (n, left) ← readNumber false (.char c :: rest)
        .ok (.number n, left)
      else if c = '"' then do
        let (s, left) ← readString [] none rest
        .ok (.string s, left)
      else if c = '[' then
        match depth with
        | 0 => stopInside .tooDeep 1 (.char c :: rest)
        | depth + 1 => do
          let (items, left) ← readItems fuel depth true rest
          .ok (.array items, left)
      else if c = '{' then
        match depth with
        | 0 => stopInside .tooDeep 1 (.char c :: rest)
        | depth + 1 => do
          let (members, left) ← readMembers fuel depth true rest
          .ok (.object (collect members), left)
      else stopInside .noValue 1 (.char c :: rest)

/-- Reads items up to the closing bracket; `first` before the first item, where no comma stands. -/
def readItems (fuel depth : Nat) (first : Bool) (input : List Symbol) :
    Except Stop (List Json × List Symbol) :=
  match fuel with
  | 0 => stopBefore .tooDeep input
  | fuel + 1 =>
    match skipGaps input with
    | [] => stopBefore .endInArray []
    | s :: rest =>
      if s = .char ']' then .ok ([], rest)
      else if first then do
        let (item, left) ← readValue fuel depth (s :: rest)
        let (items, left) ← readItems fuel depth false left
        .ok (item :: items, left)
      else if s = .char ',' then
        match skipGaps rest with
        | [] => stopBefore .endInValue []
        | t :: rest' =>
          if t = .char ']' then stopInside .trailingComma 1 (t :: rest')
          else do
            let (item, left) ← readValue fuel depth (t :: rest')
            let (items, left) ← readItems fuel depth false left
            .ok (item :: items, left)
      else stopInside .noCommaOrBracket 1 (s :: rest)

/-- Reads members up to the closing brace; `first` before the first one, where no comma stands. -/
def readMembers (fuel depth : Nat) (first : Bool) (input : List Symbol) :
    Except Stop (List (String × Json) × List Symbol) :=
  match fuel with
  | 0 => stopBefore .tooDeep input
  | fuel + 1 =>
    match skipGaps input with
    | [] => stopBefore .endInObject []
    | s :: rest =>
      if s = .char '}' then .ok ([], rest)
      else if first then
        if s = .char '"' then readMember fuel depth rest
        else stopInside .nameNotString 1 (s :: rest)
      else if s = .char ',' then
        match skipGaps rest with
        | [] => stopBefore .endInValue []
        | t :: rest' =>
          if t = .char '"' then readMember fuel depth rest'
          else if t = .char '}' then stopInside .trailingComma 1 (t :: rest')
          else stopInside .nameNotString 1 (t :: rest')
      else stopInside .noCommaOrBrace 1 (s :: rest)

/-- Reads a member whose opening quote was read, and the members after it. -/
def readMember (fuel depth : Nat) (input : List Symbol) :
    Except Stop (List (String × Json) × List Symbol) :=
  match fuel with
  | 0 => stopBefore .tooDeep input
  | fuel + 1 => do
    let (name, left) ← readString [] none input
    match skipGaps left with
    | [] => stopBefore .endInObject []
    | s :: rest =>
      if s = .char ':' then do
        let (value, left) ← readValue fuel depth rest
        let (members, left) ← readMembers fuel depth false left
        .ok ((name, value) :: members, left)
      else stopInside .noColon 1 (s :: rest)

end

/-- The number of containers that may nest. -/
def depthLimit : Nat := 127

/-- Reads one value and nothing else but blanks. -/
def readDocument (input : List Symbol) : Except Stop Json := do
  let (value, left) ← readValue (2 * input.length + 2) depthLimit input
  match skipGaps left with
  | [] => .ok value
  | s :: rest => stopInside .trailingCharacters 1 (s :: rest)

/-- The value that symbols spell. -/
def ofSymbols (symbols : List Symbol) : Except SyntaxError Json :=
  (readDocument symbols).mapError (·.error symbols)

/-- The value that a text spells. -/
def parse (s : String) : Except SyntaxError Json :=
  ofSymbols (Symbol.ofString s)

/-- The value that bytes spell. -/
def parseBytes (bytes : ByteArray) : Except SyntaxError Json :=
  ofSymbols (Symbol.ofBytes bytes)

end RestSuite.Json
