import RestSuite.Pattern.Class

/-!
# Reading patterns

Reads a pattern from left to right, sign by sign. Groups that are still open stand on a stack, the
innermost first. Flags hold from where they are set to the end of their group. Texts that no
pattern is written as are refused, and so are patterns that are nested too deeply.
-/

namespace RestSuite.Pattern

/-- A pattern and the nesting of the text that gave it. -/
structure Part where
  pattern : Pattern
  nesting : Nat

/-- One member of a sequence. -/
structure Item where
  part : Part
  /-- A repetition may follow. It may not follow a change of flags. -/
  repeatable : Bool

/-- A group that is still open, or the whole pattern. -/
structure Level where
  /-- The number of a group that captures. -/
  index : Option Nat
  /-- The flags that hold again behind the group. -/
  outerFlags : Flags
  /-- The finished alternatives, the last one first. -/
  branches : List Part
  /-- The members of the alternative in hand, the last one first. -/
  items : List Item

/-- What has been read. -/
structure Reader where
  flags : Flags
  /-- The number of capturing groups opened so far. -/
  groups : Nat
  names : List (List Char)
  current : Level
  outer : List Level

/-! ## Putting parts together -/

/-- The deepest nesting of some parts, and a level more if there are several. -/
def nestingOf (parts : List Part) : Nat :=
  let deepest := (parts.map Part.nesting).foldl max 0
  if 2 ≤ parts.length then deepest + 1 else deepest

namespace Level

/-- The level of a whole pattern, or of a group. -/
def fresh (index : Option Nat) (outerFlags : Flags) : Level := ⟨index, outerFlags, [], []⟩

/-- Adds a member. -/
def add (l : Level) (p : Pattern) (nesting : Nat) : Level :=
  { l with items := ⟨⟨p, nesting⟩, true⟩ :: l.items }

/-- Adds a change of flags. -/
def addFlags (l : Level) : Level :=
  { l with items := ⟨⟨.empty, 0⟩, false⟩ :: l.items }

/-- The alternative in hand. -/
def branch (l : Level) : Part :=
  let parts := l.items.reverse.map Item.part
  ⟨sequence (parts.map Part.pattern), nestingOf parts⟩

/-- Starts the next alternative. -/
def nextBranch (l : Level) : Level :=
  { l with branches := l.branch :: l.branches, items := [] }

/-- All alternatives. -/
def whole (l : Level) : Part :=
  let parts := (l.branch :: l.branches).reverse
  ⟨choice (parts.map Part.pattern), nestingOf parts⟩

end Level

namespace Reader

/-- A reader before the first sign. -/
def start : Reader := ⟨.standard, 0, [], .fresh none .standard, []⟩

/-- Adds a member to the group in hand. -/
def add (r : Reader) (p : Pattern) (nesting : Nat) : Reader :=
  { r with current := r.current.add p nesting }

/-- Opens a group. -/
def openGroup (r : Reader) (index : Option Nat) (inner : Flags) : Reader :=
  { r with flags := inner, current := .fresh index r.flags, outer := r.current :: r.outer }

/-- Opens the next capturing group. -/
def openCapture (r : Reader) : Reader :=
  { r with groups := r.groups + 1 }.openGroup (some (r.groups + 1)) r.flags

/-- Closes the innermost group. -/
def closeGroup? (r : Reader) : Option Reader :=
  match r.outer with
  | [] => none
  | parent :: more =>
    let whole := r.current.whole
    some { r with
      flags := r.current.outerFlags
      current := parent.add (.group r.current.index whole.pattern) (whole.nesting + 1)
      outer := more }

/-! ## Groups -/

/-- The characters that the name of a group starts with. -/
def isNameStart (c : Char) : Bool :=
  c == '_' || Unicode.letters.contains c

/-- The characters that the name of a group goes on with. -/
def isNameChar (c : Char) : Bool :=
  c == '_' || c == '.' || c == '[' || c == ']' || Unicode.lettersAndNumbers.contains c

/-- Reads the name of a group and opens it. -/
def openNamed (r : Reader) (cs : List Char) : Option (Reader × List Char) :=
  let name := cs.takeWhile (· != '>')
  match cs.dropWhile (· != '>'), name with
  | '>' :: after, first :: more =>
    if isNameStart first && more.all isNameChar && !r.names.contains name then
      some ({ r with names := name :: r.names }.openCapture, after)
    else none
  | _, _ => none

/-- The flags that letters set and, behind a minus sign, clear. No letter may come twice. -/
def readFlags (f : Flags) (negated : Bool) (seen : List Char) :
    List Char → Option (Flags × List Char × Bool)
  | [] => none
  | c :: rest =>
    if c == ':' || c == ')' then
      if seen.head? == some '-' then none else some (f, c :: rest, seen.isEmpty)
    else if seen.contains c then none
    else if c == '-' then readFlags f true (c :: seen) rest
    else
      match f.set? c (!negated) with
      | none => none
      | some f => readFlags f negated (c :: seen) rest

/-- Reads flags, either up to the colon of a group that they hold in or up to the parenthesis behind
which they hold. -/
def readFlagGroup (r : Reader) (cs : List Char) : Option (Reader × List Char) :=
  match readFlags r.flags false [] cs with
  | some (flags, ':' :: after, _) => some (r.openGroup none flags, after)
  | some (flags, _ :: after, false) =>
    some ({ r with flags := flags, current := r.current.addFlags }, after)
  | _ => none

/-- Reads what stands behind the question mark of a group. Looking behind is not supported. -/
def readMark (r : Reader) (cs : List Char) : Option (Reader × List Char) :=
  match cs with
  | 'P' :: '<' :: rest => r.openNamed rest
  | '<' :: '=' :: _ | '<' :: '!' :: _ => none
  | '<' :: rest => r.openNamed rest
  | _ => r.readFlagGroup cs

/-- Reads what stands behind an opening parenthesis. -/
def readGroup (r : Reader) (cs : List Char) : Option (Reader × List Char) :=
  match r.flags.skip cs with
  | '?' :: rest => r.readMark rest
  | rest => some (r.openCapture, rest)

/-! ## Repetitions -/

/-- Repeats the last member. -/
def repeatLast (r : Reader) (least : Nat) (most : Option Nat) (lazyMark : Bool) : Option Reader :=
  match r.current.items with
  | ⟨part, true⟩ :: before =>
    let greedy := lazyMark == r.flags.swapGreed
    let item : Item := ⟨⟨part.pattern.times least most greedy, part.nesting + 1⟩, true⟩
    some { r with current := { r.current with items := item :: before } }
  | _ => none

/-- A question mark makes a repetition as short as possible. -/
def takeLazyMark (cs : List Char) : Bool × List Char :=
  match cs with
  | '?' :: rest => (true, rest)
  | _ => (false, cs)

/-- Repeats the last member as a sign says. -/
def repeatBySign (r : Reader) (least : Nat) (most : Option Nat) (cs : List Char) :
    Option (Reader × List Char) :=
  let (lazyMark, after) := takeLazyMark cs
  (r.repeatLast least most lazyMark).map (·, after)

/-- Digits, and what follows them. -/
def takeDigits (f : Flags) (inComment : Bool) : List Char → List Char × List Char
  | [] => ([], [])
  | c :: rest =>
    if inComment then takeDigits f (c != '\n') rest
    else if c.isDigit then
      let (digits, after) := takeDigits f false rest
      (c :: digits, after)
    else if f.verbose && c == '#' then takeDigits f true rest
    else if f.verbose && Text.isBlank c then takeDigits f false rest
    else ([], c :: rest)

/-- The greatest number of a repetition. -/
def countLimit : Nat := 0xffffffff

/-- Reads the number of a repetition. -/
def readCount (f : Flags) (cs : List Char) : Option (Nat × List Char) :=
  let (digits, after) := takeDigits f false (cs.dropWhile Text.isBlank)
  let n := digits.foldl (fun n c => 10 * n + (c.toNat - '0'.toNat)) 0
  if digits.isEmpty || countLimit < n then none else some (n, after.dropWhile Text.isBlank)

/-- Reads the greatest number of a repetition behind its least one, which it is if there is no comma. -/
def readMost (f : Flags) (least : Nat) (cs : List Char) : Option (Option Nat × List Char) :=
  match cs with
  | ',' :: rest =>
    match f.skip rest with
    | '}' :: after => some (none, '}' :: after)
    | rest => (readCount f rest).map fun (most, after) => (some most, after)
  | _ => some (some least, cs)

/-- Reads the brace behind the numbers of a repetition and repeats the last member. -/
def repeatUpTo (r : Reader) (least : Nat) (most : Option Nat) (cs : List Char) :
    Option (Reader × List Char) :=
  match cs with
  | '}' :: after =>
    if (most.getD least) < least then none
    else r.repeatBySign least most (r.flags.skip after)
  | _ => none

/-- Repeats the last member as numbers in braces say. -/
def repeatByCount (r : Reader) (cs : List Char) : Option (Reader × List Char) := do
  let (least, rest) ← readCount r.flags (r.flags.skip cs)
  let (most, rest) ← readMost r.flags least rest
  r.repeatUpTo least most rest

/-! ## Signs -/

/-- Adds a character. -/
def addChar (r : Reader) (c : Char) : Reader :=
  let set : Unicode.CharSet := .single c
  r.add (.chars (if r.flags.unicode || c.toNat < 0x80 then r.flags.fold set else set)) 0

/-- Reads the next sign. -/
def step (r : Reader) (cs : List Char) : Option (Reader × List Char) :=
  match cs with
  | [] => none
  | '(' :: rest => r.readGroup rest
  | ')' :: rest => r.closeGroup?.map (·, rest)
  | '|' :: rest => some ({ r with current := r.current.nextBranch }, rest)
  | '[' :: rest => do
    let (p, after) ← readClass r.flags rest
    some (r.add (.chars p.set) p.nesting, after)
  | '?' :: rest => r.repeatBySign 0 (some 1) rest
  | '*' :: rest => r.repeatBySign 0 none rest
  | '+' :: rest => r.repeatBySign 1 none rest
  | '{' :: rest => r.repeatByCount rest
  | '\\' :: rest => do
    let (e, after) ← readEscape r.flags rest
    match e with
    | .char c => some (r.addChar c, after)
    | .set s => some (r.add (.chars s) 0, after)
    | .look a => some (r.add (.look a) 0, after)
  | '.' :: rest => do
    let s ← r.flags.dot?
    some (r.add (.chars s) 0, rest)
  | '^' :: rest => some (r.add (.look r.flags.lineStart) 0, rest)
  | '$' :: rest => some (r.add (.look r.flags.lineEnd) 0, rest)
  | c :: rest => some (r.addChar c, rest)

/-- Reads signs to the end; every sign takes a character. -/
def run : Nat → Reader → List Char → Option Reader
  | 0, r, cs => if (r.flags.skip cs).isEmpty then some r else none
  | n + 1, r, cs =>
    match r.flags.skip cs with
    | [] => some r
    | c :: rest =>
      match r.step (c :: rest) with
      | none => none
      | some (r, after) => run n r after

/-- The greatest nesting of a pattern. -/
def nestingLimit : Nat := 250

/-- The pattern, once all signs are read and all groups closed. -/
def finish? (r : Reader) : Option Pattern :=
  let whole := r.current.whole
  if r.outer.isEmpty && whole.nesting ≤ nestingLimit then some whole.pattern else none

end Reader

/-- The pattern that a text is written for. -/
def ofChars? (cs : List Char) : Option Pattern := do
  let r ← Reader.run cs.length .start cs
  r.finish?

end RestSuite.Pattern
