import RestSuite.Behavior.Registry
import RestSuite.Environment
import RestSuite.Notice

/-!
# The world of a run

Everything that calls change: variables and events, the disk, the flag that stops the run, the
requests that were sent and the notices to the operator. What lies outside is reached through
services; their state is part of the world too.
-/

namespace RestSuite

/-- What a run needs from outside. -/
structure Services (σ : Type) where
  /-- Sends a request and waits for the response. -/
  send : Request → σ → Reply σ (Except TransportError Response)
  /-- Evaluates expressions, where the host offers that. -/
  evaluator : Option (Evaluator σ)
  /-- Looks whether anyone else has asked for a stop since the last look. -/
  glance : σ → Reply σ Unit

/-- The state that calls share. -/
structure World (σ : Type) where
  environment : Environment
  disk : Disk
  /-- A stop was asked for. Only a reset takes that back. -/
  stopped : Bool
  /-- All requests sent so far. -/
  sent : List Request
  notices : List Notice
  host : σ

namespace World

variable {σ α : Type}

/-- A world in which nothing has happened. -/
def start (disk : Disk) (host : σ) : World σ := ⟨.empty, disk, false, [], [], host⟩

/-- Takes in an answer of the host. -/
def settle (w : World σ) (r : Reply σ α) : World σ :=
  { w with stopped := w.stopped || r.stop, host := r.host }

/-- Looks at the flag, after a look at what others ask for. -/
def poll (w : World σ) (s : Services σ) : World σ :=
  w.settle (s.glance w.host)

/-- Adds a notice. -/
def note (w : World σ) (n : Notice) : World σ :=
  { w with notices := w.notices ++ [n] }

/-- Adds notices. -/
def noteAll (w : World σ) (ns : List Notice) : World σ :=
  { w with notices := w.notices ++ ns }

/-- Publishes an event. -/
def publish (w : World σ) (event : Event) : World σ :=
  { w with environment := w.environment.publish event }

/-- Binds a variable. -/
def bind (w : World σ) (name : String) (value : Json) : World σ :=
  { w with environment := w.environment.bind name value }

/-- Removes a variable. -/
def unbind (w : World σ) (name : String) : World σ :=
  { w with environment := w.environment.unbind name }

/-- Makes the changes that an extractor asks for. -/
def apply (w : World σ) (x : Extraction) : World σ :=
  { w with
    environment := x.edits.foldl Environment.apply w.environment
    disk := x.disk }

end World

end RestSuite
