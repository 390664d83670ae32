import RestSuite.Pattern.Basic

/-!
# Programs for patterns

A pattern as a program: instructions that name the ones to go on with. A branching names the
preferred way first. Programs are built from the back, so that the instruction to go on with is
known; a loop is closed by filling in the branching that was left open.
-/

namespace RestSuite.Pattern

/-- One step of a search. -/
inductive Instruction where
  /-- The whole pattern has been found. -/
  | accept
  /-- Takes a character of a set. -/
  | chars (s : Unicode.CharSet) (next : Nat)
  | look (a : Anchor) (next : Nat)
  | branch (preferred other : Nat)
  /-- Notes the place under a number. -/
  | mark (slot : Nat) (next : Nat)

/-- Instructions, and the one to start with. -/
structure Program where
  code : Array Instruction
  start : Nat

namespace Program

/-- Instructions with one more, at which the program starts. -/
def push (code : Array Instruction) (i : Instruction) : Program :=
  let start := code.size
  ⟨code.push i, start⟩

/-- A branching in front: into a part or past it. -/
def fork (code : Array Instruction) (greedy : Bool) (into past : Nat) : Program :=
  push code (if greedy then .branch into past else .branch past into)

/-- Repeats a construction. -/
def copies (build : Program → Program) : Nat → Program → Program
  | 0, b => b
  | n + 1, b => copies build n (build b)

/-- A part that may be left out; what follows starts at `past`. -/
def optional (build : Program → Program) (greedy : Bool) (past : Nat) (b : Program) : Program :=
  match build b with
  | ⟨code, start⟩ => fork code greedy start past

/-- A part any number of times: behind the part comes a branching, back or on. The first thing to do
is the part or, with `branchFirst`, the branching. -/
def loop (build : Program → Program) (greedy branchFirst : Bool) (b : Program) : Program :=
  match b with
  | ⟨code, past⟩ =>
    match push code .accept with
    | ⟨code, again⟩ =>
      match build ⟨code, again⟩ with
      | ⟨code, start⟩ =>
        let closing : Instruction := if greedy then .branch start past else .branch past start
        ⟨code.setIfInBounds again closing, if branchFirst then again else start⟩

/-- A part any number of times, or not at all. If every round takes a character, entering the loop
is the same choice as going round once more. -/
def star (build : Program → Program) (greedy neverEmpty : Bool) (b : Program) : Program :=
  if neverEmpty then loop build greedy true b
  else optional (loop build greedy false) greedy b.start b

/-- A program in front of which a pattern is put. -/
def prepend (b : Program) (p : Pattern) : Program :=
  match p, b with
  | .empty, b => b
  | .chars s, ⟨code, next⟩ => push code (.chars s next)
  | .look a, ⟨code, next⟩ => push code (.look a next)
  | .seq p q, b => prepend (prepend b q) p
  | .alt p q, ⟨code, next⟩ =>
    match prepend ⟨code, next⟩ q with
    | ⟨code, second⟩ =>
      match prepend ⟨code, next⟩ p with
      | ⟨code, first⟩ => push code (.branch first second)
  | .group (some i) p, ⟨code, next⟩ =>
    match prepend (push code (.mark (2 * i + 1) next)) p with
    | ⟨code, start⟩ => push code (.mark (2 * i) start)
  | .group none p, b => prepend b p
  | .repeated p least (some most) greedy, ⟨code, past⟩ =>
    copies (prepend · p) least
      (copies (optional (prepend · p) greedy past) (most - least) ⟨code, past⟩)
  | .repeated p least none greedy, b =>
    if least = 0 then star (prepend · p) greedy p.neverEmpty b
    else copies (prepend · p) (least - 1) (loop (prepend · p) greedy false b)

/-- The program of a pattern. -/
def ofPattern (p : Pattern) : Program :=
  prepend (push #[] .accept) p

end Program

end RestSuite.Pattern
