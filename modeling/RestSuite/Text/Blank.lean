/-!
# White space

The characters with the Unicode property `White_Space`, and the removal of blanks from both ends of
a text. Variable names, path expressions and the user agent are read with their outer blanks
removed.
-/

namespace RestSuite.Text

/-- The characters with the Unicode property `White_Space`. -/
def isBlank (c : Char) : Bool :=
  let n := c.toNat
  (0x09 ≤ n && n ≤ 0x0d) || n == 0x20 || n == 0x85 || n == 0xa0 || n == 0x1680 ||
    (0x2000 ≤ n && n ≤ 0x200a) || n == 0x2028 || n == 0x2029 || n == 0x202f || n == 0x205f ||
    n == 0x3000

/-- A text without the blanks at its front. -/
def trimFront (cs : List Char) : List Char :=
  cs.dropWhile isBlank

/-- A text without the blanks at its back. -/
def trimBack (cs : List Char) : List Char :=
  (trimFront cs.reverse).reverse

/-- A text without the blanks at either end. -/
def trim (cs : List Char) : List Char :=
  trimBack (trimFront cs)

/-- A string without the blanks at either end. -/
def trimmed (s : String) : String :=
  String.ofList (trim s.toList)

/-! ## Letter case of ASCII -/

/-- The lower-case form of an ASCII letter; any other character stays as it is. -/
def lowerAscii (c : Char) : Char :=
  if 'A' ≤ c ∧ c ≤ 'Z' then Char.ofNat (c.toNat + 32) else c

/-- Two names are equal when the case of ASCII letters is ignored. -/
def sameIgnoringCase (a b : String) : Bool :=
  a.toList.map lowerAscii == b.toList.map lowerAscii

/-- Ignoring case puts names with the same lower-case form together. -/
theorem sameIgnoringCase_iff {a b : String} :
    sameIgnoringCase a b = true ↔ a.toList.map lowerAscii = b.toList.map lowerAscii := by
  simp [sameIgnoringCase]

end RestSuite.Text
