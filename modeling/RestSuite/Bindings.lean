import RestSuite.Json.Printer

/-!
# Bindings

The variables of a run: one flat map from names to values, in order of insertion. There are no
scopes; a later value of a name replaces the earlier one.
-/

namespace RestSuite

/-- The values of the variables, in the order in which they were first bound. -/
abbrev Bindings := OrderedMap Json

namespace Bindings

/-- The text that a placeholder of this name stands for. -/
def text? (b : Bindings) (name : String) : Option String :=
  (OrderedMap.get? b name).map Json.display

end Bindings

end RestSuite
