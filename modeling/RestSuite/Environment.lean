import RestSuite.Event

/-!
# The environment of a run

The variables together with the journal in which every change of them is published.
-/

namespace RestSuite

/-- The variables of a run and the events it has published. -/
structure Environment where
  bindings : Bindings
  journal : Journal

namespace Environment

/-- Nothing is bound and nothing has happened. -/
def empty : Environment := ⟨[], #[]⟩

/-- Publishes an event. -/
def publish (e : Environment) (event : Event) : Environment :=
  { e with journal := e.journal.push event }

/-- Binds a variable. -/
def bind (e : Environment) (name : String) (value : Json) : Environment :=
  publish { e with bindings := OrderedMap.put e.bindings name value } (.bound name value)

/-- Removes a variable. Nothing is published if it was not bound. -/
def unbind (e : Environment) (name : String) : Environment :=
  if OrderedMap.contains e.bindings name then
    publish { e with bindings := OrderedMap.erase e.bindings name } (.unbound name)
  else e

/-- Makes a change that an extractor asks for. -/
def apply (e : Environment) : Edit → Environment
  | .bind name value => e.bind name value
  | .unbind name => e.unbind name

/-- Binds variables, one after the other. -/
def bindAll (e : Environment) (values : List (String × Json)) : Environment :=
  values.foldl (fun e v => e.bind v.1 v.2) e

end Environment

end RestSuite
