import RestSuite.Json.Basic
import RestSuite.Text.Blank

/-!
# Paths into JSON values

A path such as `$.items[0].name` or `$['odd key']` names a node of a value. Its text is read into
steps, and the steps are followed one by one.
-/

namespace RestSuite.Json

/-- One step of a path. -/
inductive Step where
  /-- To the member of an object with this name. -/
  | field (name : String)
  /-- To the item of an array at this index. -/
  | index (i : Nat)
  deriving DecidableEq, Repr

/-- Why a path names no node. -/
inductive PathError where
  | fieldNotFound (name : String)
  | indexOutOfBounds (i : Nat)
  | invalidSegment (text : String)
  deriving DecidableEq, Repr

/-- The wording of a path error. -/
def PathError.message : PathError → String
  | .fieldNotFound name => s!"field '{name}' not found"
  | .indexOutOfBounds i => s!"array index {i} out of bounds"
  | .invalidSegment text => s!"invalid path segment '{text}'"

namespace Path

/-! ## Reading -/

/-- What stands between a pair of the given quotes, if they enclose the text. -/
def unquote? (quote : Char) : List Char → Option (List Char)
  | [] => none
  | c :: rest => if c = quote ∧ rest.getLast? = some quote then some rest.dropLast else none

/-- The number that decimal digits spell; there has to be a digit. -/
def natural? (text : List Char) : Option Nat :=
  if text ≠ [] ∧ text.all Char.isDigit then
    some (text.foldl (fun n c => n * 10 + (c.toNat - '0'.toNat)) 0)
  else none

/-- The index that a text spells: decimal digits below `2 ^ 64`, after a plus sign or none. -/
def index? (text : List Char) : Option Nat :=
  let digits := if text.head? = some '+' then text.tail else text
  (natural? digits).filter (· < 0x10000000000000000)

/-- The step that stands between brackets: a quoted name or an index, blanks around it aside. -/
def bracketStep (inner : List Char) : Except PathError Step :=
  let inner := Text.trim inner
  match unquote? '\'' inner <|> unquote? '"' inner with
  | some name => .ok (.field (String.ofList name))
  | none =>
    match index? inner with
    | some i => .ok (.index i)
    | none => .error (.invalidSegment (String.ofList inner))

/-- The characters of a name that stands outside brackets. -/
def isPlain (c : Char) : Bool :=
  c ≠ '.' && c ≠ '['

theorem length_dropWhile_le {α : Type} (p : α → Bool) (l : List α) :
    (l.dropWhile p).length ≤ l.length :=
  (List.dropWhile_sublist p).length_le

/-- The steps that a path spells. Points only separate; brackets end at the first closing one, or
where the text ends. -/
def steps (path : List Char) : Except PathError (List Step) :=
  match path with
  | [] => .ok []
  | c :: rest =>
    if c = '.' then steps rest
    else if c = '[' then do
      let step ← bracketStep (rest.takeWhile (· ≠ ']'))
      let more ← steps ((rest.dropWhile (· ≠ ']')).drop 1)
      .ok (step :: more)
    else do
      let more ← steps (rest.dropWhile isPlain)
      .ok (.field (String.ofList (c :: rest.takeWhile isPlain)) :: more)
  termination_by path.length
  decreasing_by
    · simp
    · have := length_dropWhile_le (· ≠ ']') rest
      simp only [List.length_drop, List.length_cons]
      omega
    · have := length_dropWhile_le isPlain rest
      simp only [List.length_cons]
      omega

/-! ## Following -/

/-- The node reached by one step. -/
def follow (node : Json) : Step → Except PathError Json
  | .field name =>
    match node.field? name with
    | some next => .ok next
    | none => .error (.fieldNotFound name)
  | .index i =>
    match node.item? i with
    | some next => .ok next
    | none => .error (.indexOutOfBounds i)

/-- The node reached by steps. -/
def followAll (node : Json) : List Step → Except PathError Json
  | [] => .ok node
  | step :: more => do
    let next ← follow node step
    followAll next more

/-- A path without its outer blanks and the sign for the root. -/
def withoutRoot (path : List Char) : List Char :=
  let path := Text.trim path
  if path.head? = some '$' ∨ path.head? = some '@' then path.tail else path

end Path

/-- The node that a path names. -/
def select (document : Json) (path : String) : Except PathError Json := do
  let steps ← Path.steps (Path.withoutRoot path.toList)
  Path.followAll document steps

end RestSuite.Json
