import RestSuite.Call.Record

/-!
# Events

A run publishes what it does: every change of a variable, every finished call, and that it was
stopped. Publishing never waits. A subscriber reads at its own pace; one that falls too far behind
loses the oldest events and is told how many.
-/

namespace RestSuite

/-- Something that happened in a run. -/
inductive Event where
  | bound (name : String) (value : Json)
  | unbound (name : String)
  /-- A call was entered into the history at an index. -/
  | completed (index : Nat) (call : Call)
  | cancelled

/-- All events published so far. -/
abbrev Journal := Array Event

namespace Journal

/-- The number of unread events that are kept for a subscriber. -/
def capacity : Nat := 1024

/-- What a subscriber finds who has read up to a place: how many events it lost, and the events that
are left. -/
def unread (j : Journal) (place : Nat) : Nat × List Event :=
  let lost := j.size - place - capacity
  (lost, j.toList.drop (place + lost))

end Journal

/-- The places up to which the subscribers have read, the oldest subscriber first. -/
abbrev Subscribers := List Nat

namespace Subscribers

/-- Adds a subscriber, who sees what is published from now on. -/
def subscribe (s : Subscribers) (j : Journal) : Subscribers :=
  s ++ [j.size]

/-- Drops the newest subscriber. -/
def unsubscribe (s : Subscribers) : Subscribers :=
  s.dropLast

/-- Every subscriber reads everything. -/
def readAll (s : Subscribers) (j : Journal) : List (Nat × List Event) × Subscribers :=
  (s.map j.unread, s.map fun _ => j.size)

end Subscribers

end RestSuite
