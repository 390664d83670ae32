import RestSuite.Pattern.Shape
import RestSuite.Pattern.Sharing

/-!
# The size of a pattern

How much room the automata for a pattern take, one that reads forwards and one that reads
backwards. Repetitions count with all their copies, so that a short text may describe a pattern too
large to be used. Counting stops once the limit is passed.
-/

namespace RestSuite.Pattern

/-- The greatest size that is accepted, in bytes: ten mebibytes. -/
def sizeLimit : Nat := 10 * 0x100000

/-- The extent once copies of a part have been added; the rest of them is left out once the limit is
passed. -/
def Extent.addCopies (addPart : Extent → Extent) : Nat → Extent → Extent
  | 0, e => e
  | n + 1, e => if sizeLimit < e.bytes then e else addCopies addPart n (addPart e)

/-! ## Choices of texts

Texts to choose from make a tree of their bytes. A text that ends where others go on closes a list
of ways, and the later ones start a new one. -/

/-- The texts behind each byte, in the order in which the bytes appear. -/
def groupByFirst : List (List Nat) → List (Nat × List (List Nat))
  | [] => []
  | [] :: texts => groupByFirst texts
  | (b :: rest) :: texts =>
    let groups := groupByFirst texts
    match groups.lookup b with
    | some others => (b, rest :: others) :: groups.filter (·.1 != b)
    | none => (b, [rest]) :: groups

/-- Cuts texts where one ends. Ends at the front count once. -/
def cutAtEnds : List (List Nat) → List (List (List Nat))
  | [] => [[]]
  | text :: texts =>
    match cutAtEnds texts with
    | [] => [[text]]
    | list :: lists =>
      if text.isEmpty then [] :: list :: lists else (text :: list) :: lists

/-- The extent once the tree of some texts has been added; no text is longer than the first
number. -/
def Extent.addTree (e : Extent) : Nat → List (List Nat) → Extent
  | 0, _ => e
  | n + 1, texts =>
    let fromStart := if texts.head?.any List.isEmpty then [] :: texts.dropWhile List.isEmpty
      else texts
    let lists := (cutAtEnds fromStart).map groupByFirst
    let below := (lists.flatMap fun groups => groups.map Prod.snd).filter fun texts =>
      texts.any (!·.isEmpty)
    let e := below.foldl (fun e texts => e.addTree n texts) e
    let ways := lists.length - 1 + lists.countP (!·.isEmpty)
    lists.foldl
      (fun e groups =>
        match groups with
        | [] => e
        | [_] => e.add 1 0
        | _ => e.add 1 (edgeSize * groups.length))
      (e.add 1 (linkSize * ways))

/-- The bytes of a text. -/
def textBytes (cs : List Char) : List Nat :=
  cs.flatMap fun c => encodedBytes c.toNat

/-! ## Whole patterns -/

namespace Shape

/-- The texts of a choice of nothing but texts. -/
def texts? (p : Shape) : Option (List (List Nat)) :=
  p.branches.mapM fun
    | .text cs => some (textBytes cs)
    | _ => none

/-- Where a shape stands among the branches of a choice. -/
inductive Rank where
  /-- It is no branch, or the first one. -/
  | first
  | second
  | later

/-- The extent once a branch has been linked to the two ends of a choice. The ends come in with the
second branch. -/
def link (rank : Rank) (e : Extent) : Extent :=
  match rank with
  | .first => e
  | .second => e.add 2 (2 * Extent.linkSize)
  | .later => e.add 0 Extent.linkSize

/-- The extent once a shape has been added. -/
def addTo (backwards : Bool) : Shape → Rank → Extent → Extent
  | .empty, rank, e => link rank (e.add 1 0)
  | .text cs, rank, e => link rank (e.add (textBytes cs).length 0)
  | .chars s forms, rank, e =>
    link rank
      (if s.isAscii then e.add 2 (Extent.edgeSize * s.ranges.length)
      else if backwards then e.addBackwards forms
      else e.addForwards forms)
  | .look _, rank, e => link rank (e.add 1 0)
  | .seq p q, rank, e =>
    link rank
      (if backwards then p.addTo backwards .first (q.addTo backwards .first e)
      else q.addTo backwards .first (p.addTo backwards .first e))
  | .alt p q, rank, e =>
    match rank with
    | .first =>
      match texts? (.alt p q) with
      | some texts =>
        let longest := (texts.map List.length).foldl max 0
        (e.add 1 0).addTree longest (if backwards then texts.map List.reverse else texts)
      | none => q.addTo backwards .second (p.addTo backwards .first e)
    | rank => q.addTo backwards .later (link rank (p.addTo backwards .first e))
  | .group _ p, rank, e =>
    link rank
      (if backwards then p.addTo backwards .first e
      else (p.addTo backwards .first (e.add 1 0)).add 1 0)
  | .repeated p least most _, rank, e =>
    let copies (n : Nat) (e : Extent) : Extent := e.addCopies (p.addTo backwards .first) n
    let fork (e : Extent) : Extent := e.add 1 (2 * Extent.linkSize)
    link rank
      (match most with
      | none =>
        if least ≠ 0 then fork (copies least e)
        else if p.takesText then copies 1 (fork e)
        else (fork (fork (copies 1 e))).add 1 0
      | some most =>
        if least = 0 ∧ most = 1 then (copies 1 (fork e)).add 1 0
        else if least = most then copies least e
        else
          let e := if least = 0 then e.add 1 0 else copies least e
          (e.add 1 0).addCopies (fun e => p.addTo backwards .first (fork e)) (most - least))

/-- The extent of the automaton that looks for a shape anywhere in a text, or only at the end where
it must stand. -/
def extent (backwards : Bool) (p : Shape) : Extent :=
  let fixed := if backwards then p.isAtEnd else p.isAtStart
  let e :=
    if fixed then Extent.start.add 1 0
    else Extent.start.add 3 (Extent.edgeSize + 2 * Extent.linkSize)
  let e :=
    if backwards then p.addTo backwards .first e
    else (p.addTo backwards .first (e.add 1 0)).add 1 0
  e.add 1 0

end Shape

/-- The automata of a pattern take too much room. -/
def isTooLarge (p : Pattern) : Bool :=
  let s := p.shape
  sizeLimit < (s.extent false).bytes || sizeLimit < (s.extent true).bytes

end RestSuite.Pattern
