import RestSuite.Text.Utf8

/-!
# Why a text is not JSON

The faults a reader can meet and the place where it met them. A place is a line, counted from one,
and the number of bytes of that line that were read.
-/

namespace RestSuite.Json

/-- What is wrong with a text that is not JSON. -/
inductive SyntaxFault where
  | endInValue
  | endInArray
  | endInObject
  | endInString
  | noValue
  | noColon
  | noCommaOrBracket
  | noCommaOrBrace
  | wrongWord
  | nameNotString
  | trailingComma
  | trailingCharacters
  | invalidNumber
  | numberOutOfRange
  | invalidEscape
  | unpairedSurrogate
  | secondEscapeMissing
  | strayByte
  | controlCharacter
  | tooDeep
  deriving DecidableEq, Repr

/-- The wording of a fault. -/
def SyntaxFault.message : SyntaxFault → String
  | .endInValue => "EOF while parsing a value"
  | .endInArray => "EOF while parsing a list"
  | .endInObject => "EOF while parsing an object"
  | .endInString => "EOF while parsing a string"
  | .noValue => "expected value"
  | .noColon => "expected `:`"
  | .noCommaOrBracket => "expected `,` or `]`"
  | .noCommaOrBrace => "expected `,` or `\x7d`"
  | .wrongWord => "expected ident"
  | .nameNotString => "key must be a string"
  | .trailingComma => "trailing comma"
  | .trailingCharacters => "trailing characters"
  | .invalidNumber => "invalid number"
  | .numberOutOfRange => "number out of range"
  | .invalidEscape => "invalid escape"
  | .unpairedSurrogate => "lone leading surrogate in hex escape"
  | .secondEscapeMissing => "unexpected end of hex escape"
  | .strayByte => "invalid unicode code point"
  | .controlCharacter => "control character (\\u0000-\\u001F) found while parsing a string"
  | .tooDeep => "recursion limit exceeded"

/-- A fault and the place where reading stopped. -/
structure SyntaxError where
  fault : SyntaxFault
  line : Nat
  column : Nat
  deriving DecidableEq, Repr

/-- The wording of an error. -/
def SyntaxError.message (e : SyntaxError) : String :=
  s!"{e.fault.message} at line {e.line} column {e.column}"

/-- The line and column reached after `count` bytes, from a given line and column on. A symbol
that is read in part counts with its bytes read. -/
def placeAfter (count line column : Nat) : List Text.Symbol → Nat × Nat
  | [] => (line, column)
  | symbol :: rest =>
    if count < symbol.size then (line, column + count)
    else if symbol = .char '\n' then placeAfter (count - 1) (line + 1) 0 rest
    else placeAfter (count - symbol.size) line (column + symbol.size) rest

/-- A reader that stopped: what it met, and how many bytes it had not read. -/
structure Stop where
  fault : SyntaxFault
  unread : Nat
  deriving DecidableEq, Repr

/-- The error of a reader that stopped while it read the given symbols. -/
def Stop.error (stop : Stop) (symbols : List Text.Symbol) : SyntaxError :=
  let (line, column) := placeAfter (Text.Symbol.sizeOfAll symbols - stop.unread) 1 0 symbols
  ⟨stop.fault, line, column⟩

/-- Stops before the symbols that are left. -/
def stopBefore {α : Type} (fault : SyntaxFault) (left : List Text.Symbol) : Except Stop α :=
  .error ⟨fault, Text.Symbol.sizeOfAll left⟩

/-- Stops after `count` bytes of the symbols that are left. -/
def stopInside {α : Type} (fault : SyntaxFault) (count : Nat) (left : List Text.Symbol) :
    Except Stop α :=
  .error ⟨fault, Text.Symbol.sizeOfAll left - count⟩

end RestSuite.Json
