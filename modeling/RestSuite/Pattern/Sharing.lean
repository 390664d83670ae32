import RestSuite.Pattern.ByteForm
import Std.Data.HashMap

/-!
# Shared states

An automaton takes the characters of a set byte by byte. States that lead on in the same way are
built once. They are looked for in a table of fixed size, in which a state gives way to a later one
that falls to the same place; so what is shared depends on the numbers of the states.
-/

namespace RestSuite.Pattern

/-- The extent of an automaton: its states, and the bytes that their lists of ways take. -/
structure Extent where
  states : Nat
  lists : Nat
  deriving DecidableEq, Repr

namespace Extent

/-- The bytes of one state. -/
def stateSize : Nat := 32

/-- The bytes of a way that one of several bytes takes. -/
def edgeSize : Nat := 8

/-- The bytes of a way that takes nothing. -/
def linkSize : Nat := 4

/-- Before the first state. -/
def start : Extent := ⟨0, 0⟩

/-- The bytes of the automaton. -/
def bytes (e : Extent) : Nat :=
  stateSize * e.states + e.lists

/-- More states, and more bytes for their lists. -/
def add (e : Extent) (states lists : Nat) : Extent :=
  ⟨e.states + states, e.lists + lists⟩

end Extent

/-! ## Places in a table -/

/-- Mixes a number into others. -/
def mix (h : UInt64) (n : Nat) : UInt64 :=
  (h ^^^ UInt64.ofNat n) * 1099511628211

/-- What numbers are mixed into. -/
def mixStart : UInt64 := 14695981039346656037

/-- A way from a state: the bytes it takes, and the state it leads to. -/
structure Edge where
  first : Nat
  last : Nat
  target : Nat
  deriving DecidableEq

/-! ## Beginnings

Forwards, a set is a tree of bytes whose ends are merged. Forms come in ascending order, so that a
state is finished once a form leaves it. -/

/-- A state that is not finished: its ways, the last one first, and the bytes of the way that the
form in hand takes. -/
structure OpenState where
  edges : List Edge
  current : Option (Nat × Nat)

/-- The state with the way in hand leading to another state. -/
def OpenState.closed (s : OpenState) (target : Nat) : List Edge :=
  match s.current with
  | some (first, last) => ⟨first, last, target⟩ :: s.edges
  | none => s.edges

/-- An automaton in which states with the same ways are shared. -/
structure Merging where
  extent : Extent
  /-- The state at every place of the table, with its ways. -/
  table : Std.HashMap Nat (List Edge × Nat)

namespace Merging

/-- The places of the table. -/
def tableSize : Nat := 10000

/-- The place of a state with some ways. -/
def place (edges : List Edge) : Nat :=
  (edges.foldr (fun e h => mix (mix (mix h e.first) e.last) e.target) mixStart).toNat % tableSize

/-- The state with some ways, built if need be. -/
def state (m : Merging) (edges : List Edge) : Nat × Merging :=
  let at? := m.table[place edges]?
  match at?.filter fun known => known.1 == edges with
  | some known => (known.2, m)
  | none =>
    let id := m.extent.states
    (id, ⟨m.extent.add 1 (Extent.edgeSize * edges.length),
      m.table.insert (place edges) (edges, id)⟩)

/-- Finishes open states, each of which leads to the next one and the last one to the end. -/
def finish (m : Merging) (goal : Nat) : List OpenState → Nat × Merging
  | [] => (goal, m)
  | s :: rest =>
    let (target, m) := finish m goal rest
    m.state (s.closed target)

/-- Finishes the open states that a form leaves, and opens those it needs. -/
def addForm (m : Merging) (goal : Nat) : List OpenState → ByteForm → List OpenState × Merging
  | [], form => (form.map fun r => ⟨[], some r⟩, m)
  | s :: rest, [] => (s :: rest, m)
  | s :: rest, r :: form =>
    if s.current = some r then
      let (rest, m) := addForm m goal rest form
      (s :: rest, m)
    else
      let (target, m) := finish m goal rest
      (⟨s.closed target, some r⟩ :: form.map fun r => ⟨[], some r⟩, m)

/-- Adds forms in ascending order. -/
def addForms (m : Merging) (goal : Nat) (opened : List OpenState) :
    List ByteForm → List OpenState × Merging
  | [] => (opened, m)
  | form :: rest =>
    let (opened, m) := addForm m goal opened form
    addForms m goal opened rest

end Merging

/-- The extent once a set has been added that is read forwards. -/
def Extent.addForwards (e : Extent) (forms : List ByteForm) : Extent :=
  let goal := e.states
  let (opened, m) := Merging.addForms ⟨e.add 1 0, ∅⟩ goal [⟨[], none⟩] forms
  (m.finish goal opened).2.extent

/-! ## Endings

Backwards, a set is a choice of forms that are read from the end. What their first bytes have in
common is shared. -/

/-- An automaton in which steps with the same bytes to the same state are shared. -/
structure Chaining where
  extent : Extent
  /-- The step at every place of the table, and the state that takes it. -/
  table : Std.HashMap Nat (Edge × Nat)

namespace Chaining

/-- The places of the table. -/
def tableSize : Nat := 1000

/-- The place of a step. -/
def place (e : Edge) : Nat :=
  (mix (mix (mix mixStart e.target) e.first) e.last).toNat % tableSize

/-- The state that takes a step, built if need be. -/
def state (c : Chaining) (e : Edge) : Nat × Chaining :=
  let at? := c.table[place e]?
  match at?.filter fun known => known.1 == e with
  | some known => (known.2, c)
  | none =>
    let id := c.extent.states
    (id, ⟨c.extent.add 1 0, c.table.insert (place e) (e, id)⟩)

/-- The state that a form starts with, which leads to another one. -/
def addForm (c : Chaining) (target : Nat) : ByteForm → Chaining
  | [] => { c with extent := c.extent.add 0 Extent.linkSize }
  | r :: form =>
    let (target, c) := c.state ⟨r.1, r.2, target⟩
    addForm c target form

end Chaining

/-- The extent once a set has been added that is read backwards. -/
def Extent.addBackwards (e : Extent) (forms : List ByteForm) : Extent :=
  let goal := e.states + 1
  let c : Chaining := ⟨e.add 2 0, ∅⟩
  (forms.foldl (fun c form => c.addForm goal form) c).extent

end RestSuite.Pattern
