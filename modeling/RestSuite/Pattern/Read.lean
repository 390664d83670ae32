import RestSuite.Pattern.Parser
import RestSuite.Pattern.Search
import RestSuite.Pattern.Size

/-!
# Patterns from texts

Reads a pattern and refuses what is malformed or too large. An anchored pattern has to take a text
as a whole.
-/

namespace RestSuite

/-- Why a text is no usable pattern. -/
inductive PatternError where
  | malformed
  | tooLarge
  deriving DecidableEq, Repr

/-- The wording of a pattern error. -/
def PatternError.message : PatternError → String
  | .malformed => "regex parse error:"
  | .tooLarge => s!"Compiled regex exceeds size limit of {Pattern.sizeLimit} bytes."

namespace Pattern

/-- Reads a pattern. -/
def ofChars (cs : List Char) : Except PatternError Pattern :=
  match ofChars? cs with
  | none => .error .malformed
  | some p => if p.isTooLarge then .error .tooLarge else .ok p

/-- Reads a pattern. -/
def ofString (text : String) : Except PatternError Pattern :=
  ofChars text.toList

/-- The written form of a pattern, put into a group between the two ends of the text. -/
def anchoredChars (cs : List Char) : List Char :=
  ['^', '(', '?', ':'] ++ cs ++ [')', '$']

/-- Reads a pattern that has to take a text as a whole. -/
def anchored (text : String) : Except PatternError Pattern :=
  ofChars (anchoredChars text.toList)

end Pattern

end RestSuite
