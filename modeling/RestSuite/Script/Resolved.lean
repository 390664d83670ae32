import RestSuite.Script.Chain

/-!
# Resolved scripts

A script combined with its templates. The method and the body come from the nearest script of the
chain that gives one; headers, variables and rules add up from the root of the chain down. Nothing
is expanded here but the names of templates.
-/

namespace RestSuite

/-- What the scripts of a chain add up to. -/
structure Layer where
  headers : List Header
  env : List (String × Json)
  preconditions : List Rule
  extractors : List Rule
  assertions : List Rule

namespace Layer

/-- A layer that declares nothing. -/
def empty : Layer := ⟨[], [], [], [], []⟩

/-- One layer with another on top of it. -/
def append (a b : Layer) : Layer where
  headers := a.headers ++ b.headers
  env := a.env ++ b.env
  preconditions := a.preconditions ++ b.preconditions
  extractors := a.extractors ++ b.extractors
  assertions := a.assertions ++ b.assertions

end Layer

/-- The sections that a script itself declares. -/
def Script.layer (s : Script) : Except ConfigurationError Layer := do
  let headers ← s.ownHeaders
  let env ← s.ownEnv
  let preconditions ← s.ownRules .precondition
  let extractors ← s.ownRules .extraction
  let assertions ← s.ownRules .assertion
  .ok ⟨headers, env, preconditions, extractors, assertions⟩

/-- A script with its inheritance applied. -/
structure ResolvedScript where
  name : String
  /-- The names of the templates, the root first. -/
  chain : List String
  /-- The method and the unexpanded URI. -/
  line? : Option (Method × String)
  body : Option Json
  layer : Layer

namespace ResolvedScript

/-- The method and the unexpanded URI, which a script that is run has to have. -/
def requestLine (s : ResolvedScript) : Except ConfigurationError (Method × String) :=
  match s.line? with
  | some line => .ok line
  | none => .error (.missingMethod s.name)

/-- The rules of a stage, in the order in which they run. -/
def rules (s : ResolvedScript) : Stage → List Rule
  | .precondition => s.layer.preconditions
  | .extraction => s.layer.extractors
  | .assertion => s.layer.assertions

end ResolvedScript

/-! ## Combining a chain -/

/-- The method and URI of the first script that gives one. -/
def nearestMethod : List Script → Except ConfigurationError (Option (Method × String))
  | [] => .ok none
  | s :: rest =>
    match s.ownMethod with
    | .error e => .error e
    | .ok (some line) => .ok (some line)
    | .ok none => nearestMethod rest

/-- The notices of the scripts that are looked at for a method. -/
def nearestMethodNotices : List Script → List Notice
  | [] => []
  | s :: rest =>
    match s.ownMethod with
    | .ok none => s.methodNotices ++ nearestMethodNotices rest
    | _ => s.methodNotices

/-- The layers of scripts, one on top of the other. -/
def combineLayers (below : Layer) : List Script → Except ConfigurationError Layer
  | [] => .ok below
  | s :: rest =>
    match s.layer with
    | .error e => .error e
    | .ok layer => combineLayers (below.append layer) rest

/-- Combines a script with the templates above it. -/
def Script.resolve (s : Script) (t : Templates) (b : Bindings) :
    Except ResolveError ResolvedScript := do
  let chain ← t.chain b s
  let line ← (nearestMethod chain.reverse).mapError .configuration
  let layer ← (combineLayers .empty chain).mapError .configuration
  .ok {
    name := s.name
    chain := chain.dropLast.map Script.name
    line? := line
    body := chain.reverse.findSome? Script.ownBody?
    layer := layer }

/-- The notices that resolving a script gives. -/
def Script.resolveNotices (s : Script) (t : Templates) (b : Bindings) : List Notice :=
  match t.chain b s with
  | .error _ => []
  | .ok chain => nearestMethodNotices chain.reverse

end RestSuite
