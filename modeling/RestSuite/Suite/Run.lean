import RestSuite.Script.Resolved
import RestSuite.Suite.Basic

/-!
# Running a suite

The nodes of a document are taken in order. A template is registered; any other script is combined
with its templates and run. Every node that is no accepted template leaves one call in the history,
whatever went wrong with it. A run ends early when it is stopped or, if the settings say so, with
the first script that is run and does not succeed.
-/

namespace RestSuite.Suite

variable {σ : Type}

/-! ## What is entered -/

/-- Enters a call into the history and publishes it. -/
def report (s : Suite σ) (call : Call) : Suite σ :=
  { s with
    world := s.world.publish (.completed s.history.length call.reported)
    history := s.history ++ [call.reported] }

/-- Keeps a script that was run, and enters its call. -/
def enter (s : Suite σ) (script : Script) (r : Call × World σ) : Suite σ :=
  { s with
    world := r.2
    scripts := OrderedMap.put s.scripts script.name script : Suite σ }.report r.1

/-- The call ends the run. -/
def endsRun (s : Suite σ) (call : Call) : Bool :=
  s.settings.failFast && !call.isSuccessful && !call.cancelled

/-- Enters the call of a script that was run. The second answer says whether the run goes on. -/
def conclude (s : Suite σ) (script : Script) (r : Call × World σ) : Suite σ × Bool :=
  let after := s.enter script r
  if s.endsRun r.1 then ({ after with world := after.world.note .stoppedEarly }, false)
  else (after, true)

/-! ## Nodes -/

/-- Gives the notices of combining a script with the templates above it. -/
def noting (s : Suite σ) (script : Script) : Suite σ :=
  { s with world := s.world.noteAll (script.resolveNotices s.templates s.bindings) }

/-- Registers a template, if it can be combined with those above it. -/
def define (s : Suite σ) (template : Script) : Suite σ :=
  match template.resolve s.templates s.bindings with
  | .ok _ => { s.noting template with templates := s.templates.register template }
  | .error e => (s.noting template).report (.rejected template.name (.ofResolve e))

/-- The name for the call of a node that is no script. -/
def nodeName (node : Json) : String :=
  ((node.field? "name").bind Json.text?).getD "<invalid script>"

/-- Runs a resolved script and enters its call. The second answer says whether the run goes on. -/
def perform (s : Suite σ) (script : Script) (resolved : ResolvedScript) : Suite σ × Bool :=
  s.conclude script (s.caller.run resolved s.world)

/-- Takes one node. The second answer says whether the run goes on. -/
def take (s : Suite σ) (node : Json) : Suite σ × Bool :=
  match Script.ofJson node with
  | .error e => (s.report (.rejected (nodeName node) (.configuration e)), true)
  | .ok script =>
    if script.isTemplate then (s.define script, true)
    else
      match script.resolve s.templates s.bindings with
      | .error e => ((s.noting script).report (.rejected script.name (.ofResolve e)), true)
      | .ok resolved => (s.noting script).perform script resolved

/-! ## Runs -/

/-- Looks whether the run is to be stopped. -/
def poll (s : Suite σ) : Suite σ :=
  { s with world := s.world.poll s.services }

/-- What becomes of a run at its next node, with the suite that is left. -/
inductive Round (σ : Type) where
  /-- The run is to be stopped, and the node is not taken. -/
  | stopped (left : Suite σ)
  /-- The node is taken, and its call ends the run. -/
  | ended (left : Suite σ)
  /-- The node is taken, and the run goes on. -/
  | going (left : Suite σ)

/-- Takes a node, if the run is not to be stopped. -/
def round (s : Suite σ) (node : Json) : Round σ :=
  let s := s.poll
  if s.world.stopped then .stopped s
  else
    match s.take node with
    | (s, true) => .going s
    | (s, false) => .ended s

/-- Takes nodes one after the other until the run ends. -/
def takeAll (s : Suite σ) : List Json → Suite σ
  | [] => s
  | node :: rest =>
    match s.round node with
    | .stopped s => s
    | .ended s => s
    | .going s => s.takeAll rest

/-- The nodes of a document: the items of an array, or the document itself. -/
def nodes : Json → List Json
  | .array items => items
  | single => [single]

/-- Ends a run. If it was stopped, that is published. -/
def close (s : Suite σ) : Suite σ :=
  if s.world.stopped then { s with world := s.world.publish .cancelled } else s

/-- Runs a document. -/
def execute (s : Suite σ) (document : Json) : Suite σ :=
  (s.takeAll (nodes document)).poll.close

/-- The calls that a run has added to a history. -/
def newCalls (before after : Suite σ) : List Call :=
  after.history.drop before.history.length

/-! ## Documents from texts and files -/

/-- Why a document could not be loaded. -/
inductive LoadError where
  | unreadable (path : String) (reason : FileError)
  | malformed (reason : Json.SyntaxError)

/-- The wording of a load error. -/
def LoadError.message : LoadError → String
  | .unreadable path reason => s!"cannot read {path}: {reason.message}"
  | .malformed reason => s!"invalid JSON: {reason.message}"

/-- Runs the document of a text. -/
def executeText (s : Suite σ) (text : String) : Except LoadError (Suite σ) :=
  match Json.parse text with
  | .ok document => .ok (s.execute document)
  | .error e => .error (.malformed e)

/-- Runs the document of a file. -/
def executeFile (s : Suite σ) (path : String) : Except LoadError (Suite σ) :=
  match s.world.disk.readText path with
  | .ok text => s.executeText text
  | .error e => .error (.unreadable path e)

end RestSuite.Suite
