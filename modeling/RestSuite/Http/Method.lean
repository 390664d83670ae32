import RestSuite.Text.Blank

/-!
# HTTP methods

A script names its method by using the method's name, in any case, as a field name.
-/

namespace RestSuite

/-- An HTTP method. -/
inductive Method where
  | get
  | post
  | put
  | delete
  | patch
  | options
  | head
  | trace
  | connect
  deriving DecidableEq, Repr

namespace Method

/-- Every method. -/
def all : List Method :=
  [.get, .post, .put, .delete, .patch, .options, .head, .trace, .connect]

/-- The name on the request line. -/
def name : Method → String
  | .get => "GET"
  | .post => "POST"
  | .put => "PUT"
  | .delete => "DELETE"
  | .patch => "PATCH"
  | .options => "OPTIONS"
  | .head => "HEAD"
  | .trace => "TRACE"
  | .connect => "CONNECT"

/-- The method that a field name spells in any case. -/
def ofKey? (key : String) : Option Method :=
  all.find? fun m => Text.sameIgnoringCase m.name key

end Method

end RestSuite
