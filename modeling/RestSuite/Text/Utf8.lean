/-!
# Bytes read as UTF-8

A byte sequence is read as a list of symbols: a symbol is a character, or a stray byte that starts
no character. A text has characters only, so a reader that works on symbols serves texts and raw
bytes alike and can still say where the first stray byte stands.
-/

namespace RestSuite.Text

/-- One unit of a byte sequence read as UTF-8. -/
inductive Symbol where
  /-- A well-formed character. -/
  | char (c : Char)
  /-- A byte at which no character starts. -/
  | stray (b : UInt8)
  deriving DecidableEq, Repr

namespace Symbol

/-- The number of bytes that a symbol takes. -/
def size : Symbol → Nat
  | .char c => c.utf8Size
  | .stray _ => 1

/-- The number of bytes that symbols take together. -/
def sizeOfAll : List Symbol → Nat
  | [] => 0
  | s :: rest => s.size + sizeOfAll rest

/-- The symbols of a text: its characters. -/
def ofString (s : String) : List Symbol :=
  s.toList.map .char

/-- The symbols of a byte sequence from an index on. -/
def ofBytesFrom (bytes : ByteArray) (i : Nat) : List Symbol :=
  if h : i < bytes.size then
    match bytes.utf8DecodeChar? i with
    | some c => .char c :: ofBytesFrom bytes (i + c.utf8Size)
    | none => .stray bytes[i] :: ofBytesFrom bytes (i + 1)
  else []
  termination_by bytes.size - i
  decreasing_by
    · have := c.utf8Size_pos
      omega
    · omega

/-- The symbols of a byte sequence. -/
def ofBytes (bytes : ByteArray) : List Symbol :=
  ofBytesFrom bytes 0

end Symbol

/-- The text that a byte sequence encodes, if it is well-formed UTF-8. -/
def ofUtf8? (bytes : ByteArray) : Option String :=
  String.fromUTF8? bytes

/-- The bytes of a text read back as that text. -/
theorem ofUtf8?_toUTF8 (s : String) : ofUtf8? s.toUTF8 = some s := by
  simp [ofUtf8?, String.fromUTF8?, s.isValidUTF8, String.fromUTF8]

end RestSuite.Text
