import RestSuite.Decimal.Shortest
import RestSuite.Json.Basic

/-!
# The text of a JSON value

Two printers: the compact one, which texts, messages and bodies use, and the pretty one, for files.
Both spell the leaves alike. A float has the fewest digits that read back as it; it is written out
with a fraction between `1e-5` and `1e16` and with an exponent elsewhere.
-/

namespace RestSuite.Json

/-! ## Strings -/

/-- The lower-case hexadecimal digit of a number below sixteen. -/
def hexDigit (n : Nat) : Char :=
  if n < 10 then Char.ofNat (n + '0'.toNat) else Char.ofNat (n - 10 + 'a'.toNat)

/-- How a character stands between quotes: the quote, the backslash and the controls are escaped. -/
def escaped (c : Char) : List Char :=
  if c = '"' then ['\\', '"']
  else if c = '\\' then ['\\', '\\']
  else if c = '\n' then ['\\', 'n']
  else if c = '\r' then ['\\', 'r']
  else if c = '\t' then ['\\', 't']
  else if c = '\x08' then ['\\', 'b']
  else if c = '\x0c' then ['\\', 'f']
  else if c.toNat < 0x20 then
    ['\\', 'u', '0', '0', hexDigit (c.toNat / 16), hexDigit (c.toNat % 16)]
  else [c]

/-- A string between quotes. -/
def quoted (s : String) : List Char :=
  '"' :: s.toList.flatMap escaped ++ ['"']

/-! ## Numbers -/

/-- The decimal digits of a natural number. -/
def decimal (n : Nat) : List Char :=
  Nat.toDigits 10 n

/-- How a float is written out. -/
structure FloatFormat where
  /-- The least exponent of ten of the first digit that is written out. -/
  least : Int
  /-- The first exponent of ten of the first digit that is too large to be written out. -/
  limit : Int

/-- Floats are written out from `1e-5` on and below `1e16`. -/
def floatFormat : FloatFormat := ⟨-5, 16⟩

/-- Digits with a point after the first `whole` of them. -/
def pointed (digits : List Char) (whole : Int) : List Char :=
  match whole with
  | .ofNat n =>
    if n = 0 then '0' :: '.' :: digits
    else if digits.length ≤ n then
      digits ++ List.replicate (n - digits.length) '0' ++ ['.', '0']
    else digits.take n ++ '.' :: digits.drop n
  | .negSucc n => '0' :: '.' :: List.replicate (n + 1) '0' ++ digits

/-- Digits with a point after the first of them and an exponent with its sign. -/
def withExponent (digits : List Char) (exponent : Int) : List Char :=
  let fraction :=
    match digits with
    | first :: second :: rest => first :: '.' :: second :: rest
    | short => short
  fraction ++ 'e' :: (if exponent < 0 then '-' else '+') :: decimal exponent.natAbs

/-- The text of a finite float. -/
def floatText (x : Float) : List Char :=
  let sign := if Decimal.isNegative x then ['-'] else []
  let m := Decimal.Magnitude.ofFloat x
  if m.mantissa = 0 then sign ++ ['0', '.', '0']
  else
    let (digits, whole) := Decimal.shortest m
    let digits := digits.map Nat.digitChar
    let first := whole - 1
    sign ++
      if floatFormat.least ≤ first ∧ first < floatFormat.limit then pointed digits whole
      else withExponent digits first

/-- The text of a number. -/
def numberText : Number → List Char
  | .integer (.ofNat n) _ => decimal n
  | .integer (.negSucc n) _ => '-' :: decimal (n + 1)
  | .real x => floatText x

/-! ## Compact text -/

mutual

/-- The characters of the compact text. -/
def compact : Json → List Char
  | .null => ['n', 'u', 'l', 'l']
  | .bool true => ['t', 'r', 'u', 'e']
  | .bool false => ['f', 'a', 'l', 's', 'e']
  | .number n => numberText n
  | .string s => quoted s
  | .array [] => ['[', ']']
  | .array (item :: rest) => '[' :: compact item ++ compactItems rest
  | .object [] => ['{', '}']
  | .object ((name, value) :: rest) =>
    '{' :: quoted name ++ ':' :: compact value ++ compactMembers rest

/-- The items after the first, each with its comma, and the closing bracket. -/
def compactItems : List Json → List Char
  | [] => [']']
  | item :: rest => ',' :: compact item ++ compactItems rest

/-- The members after the first, each with its comma, and the closing brace. -/
def compactMembers : List (String × Json) → List Char
  | [] => ['}']
  | (name, value) :: rest =>
    ',' :: quoted name ++ ':' :: compact value ++ compactMembers rest

end

/-- The compact text of a value. -/
def text (v : Json) : String :=
  String.ofList v.compact

/-- A string as it is, and any other value as its compact text. -/
def display : Json → String
  | .string s => s
  | other => other.text

/-! ## Pretty text -/

/-- A new line that is indented by two blanks per level. -/
def newline (level : Nat) : List Char :=
  '\n' :: List.replicate (2 * level) ' '

mutual

/-- The characters of the pretty text of a value that stands `level` containers deep. -/
def indented (level : Nat) : Json → List Char
  | .array [] => ['[', ']']
  | .array (item :: rest) =>
    '[' :: newline (level + 1) ++ indented (level + 1) item ++ indentedItems level rest
  | .object [] => ['{', '}']
  | .object ((name, value) :: rest) =>
    '{' :: newline (level + 1) ++ quoted name ++ ':' :: ' ' :: indented (level + 1) value ++
      indentedMembers level rest
  | .null => compact .null
  | .bool b => compact (.bool b)
  | .number n => compact (.number n)
  | .string s => compact (.string s)

/-- The items after the first and the closing bracket on a line of its own. -/
def indentedItems (level : Nat) : List Json → List Char
  | [] => newline level ++ [']']
  | item :: rest =>
    ',' :: newline (level + 1) ++ indented (level + 1) item ++ indentedItems level rest

/-- The members after the first and the closing brace on a line of its own. -/
def indentedMembers (level : Nat) : List (String × Json) → List Char
  | [] => newline level ++ ['}']
  | (name, value) :: rest =>
    ',' :: newline (level + 1) ++ quoted name ++ ':' :: ' ' :: indented (level + 1) value ++
      indentedMembers level rest

end

/-- The pretty text of a value: two blanks per level, and no newline at the end. -/
def prettyText (v : Json) : String :=
  String.ofList (v.indented 0)

end RestSuite.Json
