import RestSuite.Unicode.CharSet

/-!
# Patterns

A pattern describes texts. It is read from its written form by `RestSuite.Pattern.Parser`; here are
its tree and what can be said of it without a text.
-/

namespace RestSuite

/-- A demand on a place in a text, which takes no character. -/
inductive Anchor where
  | textStart
  | textEnd
  /-- After a line feed or at the start; with `anyBreak` also after a carriage return. -/
  | lineStart (anyBreak : Bool)
  /-- Before a line feed or at the end; with `anyBreak` also before a carriage return. -/
  | lineEnd (anyBreak : Bool)
  /-- What stands before and behind: a character of the class on one side only. -/
  | wordEdge (words : Unicode.CharSet)
  | noWordEdge (words : Unicode.CharSet)
  | wordStart (words : Unicode.CharSet)
  | wordEnd (words : Unicode.CharSet)
  /-- No character of the class stands before. -/
  | noWordBefore (words : Unicode.CharSet)
  /-- No character of the class stands behind. -/
  | noWordBehind (words : Unicode.CharSet)
  deriving DecidableEq

/-- A description of texts. -/
inductive Pattern where
  /-- The empty text. -/
  | empty
  /-- One character of a set. -/
  | chars (s : Unicode.CharSet)
  | look (a : Anchor)
  /-- One after the other. -/
  | seq (p q : Pattern)
  /-- Either; the first one is tried first. -/
  | alt (p q : Pattern)
  /-- Several times over, as often as possible if `greedy`, else as seldom. -/
  | repeated (p : Pattern) (least : Nat) (most : Option Nat) (greedy : Bool)
  /-- A part in parentheses; its text can be asked for if it has a number. -/
  | group (index : Option Nat) (p : Pattern)
  deriving DecidableEq

namespace Pattern

/-- Every text of the pattern has a character. -/
def neverEmpty : Pattern → Bool
  | .empty => false
  | .chars _ => true
  | .look _ => false
  | .seq p q => p.neverEmpty || q.neverEmpty
  | .alt p q => p.neverEmpty && q.neverEmpty
  | .repeated p least _ _ => least != 0 && p.neverEmpty
  | .group _ p => p.neverEmpty

/-- No text of the pattern has a character. -/
def onlyEmpty : Pattern → Bool
  | .empty => true
  | .chars _ => false
  | .look _ => true
  | .seq p q => p.onlyEmpty && q.onlyEmpty
  | .alt p q => p.onlyEmpty && q.onlyEmpty
  | .repeated p _ most _ => most == some 0 || p.onlyEmpty
  | .group _ p => p.onlyEmpty

/-- Patterns one after the other. -/
def sequence : List Pattern → Pattern
  | [] => .empty
  | [p] => p
  | p :: q :: rest => .seq p (sequence (q :: rest))

/-- Patterns to choose from, the first ones first. -/
def choice : List Pattern → Pattern
  | [] => .empty
  | [p] => p
  | p :: q :: rest => .alt p (choice (q :: rest))

/-- A repetition. What takes no character need not be repeated more than once. -/
def times (p : Pattern) (least : Nat) (most : Option Nat) (greedy : Bool) : Pattern :=
  if p.onlyEmpty then .repeated p (min least 1) (some ((most.getD 1).min 1)) greedy
  else .repeated p least most greedy

end Pattern

end RestSuite
