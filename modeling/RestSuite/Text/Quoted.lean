import RestSuite.Unicode.CharSet
import RestSuite.Unicode.Hidden

/-!
# Quoted text

How a text is shown in a message: between quotes, with line breaks, quotes, backslashes and all
characters that cannot be seen by themselves written as escapes.
-/

namespace RestSuite.Text

/-- The characters that cannot be seen by themselves. -/
def hidden : Unicode.CharSet :=
  Unicode.CharSet.ofTable Unicode.hiddenTable

/-- A character as it is shown between quotes. -/
def shownChar (c : Char) : List Char :=
  if c = '\x00' then ['\\', '0']
  else if c = '\t' then ['\\', 't']
  else if c = '\r' then ['\\', 'r']
  else if c = '\n' then ['\\', 'n']
  else if c = '\\' ∨ c = '"' then ['\\', c]
  else if ' ' ≤ c ∧ c ≤ '~' then [c]
  else if hidden.contains c then
    ['\\', 'u', '{'] ++ Nat.toDigits 16 c.toNat ++ ['}']
  else [c]

/-- A text as it is shown in a message. -/
def shown (s : String) : String :=
  String.ofList ('"' :: s.toList.flatMap shownChar ++ ['"'])

end RestSuite.Text
