import RestSuite.Pattern.Program
import RestSuite.Pattern.Reach

/-!
# Searching for a pattern

Finds the first place where a pattern occurs and the parts of the text that its groups take. All
ways are followed at once, character by character, in order of preference. At one place no
instruction is tried twice: the way that came to it first is preferred. Once a way is at its end,
those behind it no longer count. The work is bounded by the instructions times the places.
-/

namespace RestSuite.Pattern

/-- Places noted on the way, the last one first. -/
abbrev Marks := List (Nat × Nat)

/-- A way that goes on: an instruction, and what was noted before. -/
structure Trail where
  instruction : Nat
  marks : Marks

/-- A way that waits for a character of a set. -/
structure Waiting where
  set : Unicode.CharSet
  trail : Trail

/-- The ways at one place. -/
structure Front where
  /-- The ways that wait for a character, the preferred ones first. -/
  waiting : List Waiting
  /-- What was noted on the best way to the end so far. -/
  best : Option Marks
  /-- For every instruction one more than the last place at which it was tried. -/
  tried : Array Nat

namespace Program

/-- Follows ways at a place up to the next character or to the end. The ways to follow stand with
the preferred one first, those that wait already with the last one first. -/
def spread (code : Array Instruction) (text : Array Char) (place : Nat) :
    Nat → List Trail → List Waiting → Front → Front
  | 0, _, waiting, f => { f with waiting := waiting.reverse }
  | _, [], waiting, f => { f with waiting := waiting.reverse }
  | n + 1, t :: rest, waiting, ⟨_, best, tried⟩ =>
    if tried[t.instruction]?.getD 0 = place + 1 then
      spread code text place n rest waiting ⟨[], best, tried⟩
    else
      let tried := tried.setIfInBounds t.instruction (place + 1)
      match code[t.instruction]? with
      | none => spread code text place n rest waiting ⟨[], best, tried⟩
      | some .accept => ⟨waiting.reverse, some t.marks, tried⟩
      | some (.chars s next) =>
        spread code text place n rest (⟨s, next, t.marks⟩ :: waiting) ⟨[], best, tried⟩
      | some (.look a next) =>
        if a.holds text place then
          spread code text place n (⟨next, t.marks⟩ :: rest) waiting ⟨[], best, tried⟩
        else spread code text place n rest waiting ⟨[], best, tried⟩
      | some (.branch preferred other) =>
        spread code text place n (⟨preferred, t.marks⟩ :: ⟨other, t.marks⟩ :: rest) waiting
          ⟨[], best, tried⟩
      | some (.mark slot next) =>
        spread code text place n (⟨next, (slot, place) :: t.marks⟩ :: rest) waiting
          ⟨[], best, tried⟩

/-- Follows ways at a place. An instruction that is tried for the first time adds two more at most,
which bounds the steps. -/
def front (p : Program) (text : Array Char) (place : Nat) (trails : List Trail)
    (best : Option Marks) (tried : Array Nat) : Front :=
  -- As long as nothing is found, the pattern may also start here.
  let trails := if best.isNone then trails ++ [⟨p.start, []⟩] else trails
  spread p.code text place (2 * p.code.size + trails.length + 1) trails [] ⟨[], best, tried⟩

/-- The ways that go on with a character. -/
def advance (c : Char) (waiting : List Waiting) : List Trail :=
  waiting.filterMap fun w => if w.set.contains c then some w.trail else none

/-- Goes on from a place to the end of the text, which is so many characters away, or to where no
way is left. -/
def run (p : Program) (text : Array Char) (f : Front) : Nat → Option Marks
  | 0 => f.best
  | n + 1 =>
    if f.best.isSome && f.waiting.isEmpty then f.best
    else
      let place := text.size - n
      match text[place - 1]? with
      | none => f.best
      | some c =>
        match f with
        | ⟨waiting, best, tried⟩ =>
          run p text (p.front text place (advance c waiting) best tried) n

/-- What the first occurrence notes. -/
def search (p : Program) (text : Array Char) : Option Marks :=
  run p text (p.front text 0 [] none (Array.replicate p.code.size 0)) text.size

end Program

/-- The parts of a text that the groups of a pattern take. -/
structure Captures where
  text : Array Char
  marks : Marks

/-- The place last noted under a number. -/
def Captures.place? (c : Captures) (slot : Nat) : Option Nat :=
  c.marks.lookup slot

/-- The part that a group takes, if it takes part at all. -/
def Captures.group? (c : Captures) (index : Nat) : Option String := do
  let start ← c.place? (2 * index)
  let stop ← c.place? (2 * index + 1)
  some (String.ofList (c.text.extract start stop).toList)

/-- The groups of the first occurrence of the pattern. -/
def captures? (p : Pattern) (text : String) : Option Captures :=
  let cs := text.toList.toArray
  ((Program.ofPattern p).search cs).map (⟨cs, ·⟩)

end RestSuite.Pattern
