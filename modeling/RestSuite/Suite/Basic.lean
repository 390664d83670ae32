import RestSuite.Call.Run
import RestSuite.Script.Chain
import RestSuite.Settings.Basic

/-!
# Suites

A suite runs scripts one after the other. What lives as long as a suite: the world of its calls, the
templates and scripts it has met, the history of its calls and its settings.
-/

namespace RestSuite

/-- A suite and all it has done. -/
structure Suite (σ : Type) where
  registry : Registry σ
  services : Services σ
  settings : Settings
  /-- The base URL of the settings, if it is one. -/
  baseUrl : Option Url
  world : World σ
  templates : Templates
  /-- The scripts that were run, by name; the last of a name counts. -/
  scripts : OrderedMap Script
  history : List Call

/-- Totals over the history of a suite. -/
structure Summary where
  executed : Nat
  successful : Nat
  failed : Nat
  passedAssertions : Nat
  failedAssertions : Nat
  skippedAssertions : Nat
  cancelled : Bool
  deriving DecidableEq, Repr

namespace Suite

variable {σ : Type}

/-- A suite with a base URL and directory of settings. A base URL that is none is passed over, and
the operator is told. -/
def configure (s : Suite σ) (settings : Settings) : Suite σ :=
  match settings.baseUrl with
  | none => { s with settings := settings, baseUrl := none }
  | some text =>
    match Url.parse text with
    | .ok url => { s with settings := settings, baseUrl := some url }
    | .error e =>
      { s with
        settings := settings
        baseUrl := none
        world := s.world.note (.ignoredBaseUrl text e.message) }

/-- A suite that has done nothing yet. -/
def create (registry : Registry σ) (services : Services σ) (disk : Disk) (host : σ)
    (settings : Settings) : Suite σ :=
  let bare : Suite σ :=
    ⟨registry, services, settings, none, .start disk host, [], [], []⟩
  bare.configure settings

/-- How the calls of a suite are run. -/
def caller (s : Suite σ) : Caller σ :=
  ⟨s.registry, s.services, s.settings.baseDirectory, s.baseUrl⟩

/-! ## What hosts see and do between runs -/

/-- The variables. -/
def bindings (s : Suite σ) : Bindings :=
  s.world.environment.bindings

/-- Binds a variable. -/
def bind (s : Suite σ) (name : String) (value : Json) : Suite σ :=
  { s with world := s.world.bind name value }

/-- Removes a variable. -/
def unbind (s : Suite σ) (name : String) : Suite σ :=
  { s with world := s.world.unbind name }

/-- Asks for the run to be stopped. -/
def cancel (s : Suite σ) : Suite σ :=
  { s with world := { s.world with stopped := true } }

/-- A stop was asked for. -/
def isCancelled (s : Suite σ) : Bool :=
  s.world.stopped

/-- Forgets the history and the request to stop. Variables, templates and scripts are kept. -/
def reset (s : Suite σ) : Suite σ :=
  { s with world := { s.world with stopped := false }, history := [] }

/-- The script of a name that was run last. -/
def script? (s : Suite σ) (name : String) : Option Script :=
  OrderedMap.get? s.scripts name

/-- What is counted in every call, added up. -/
def total (count : Call → Nat) : List Call → Nat
  | [] => 0
  | c :: rest => count c + total count rest

/-- The totals. -/
def summary (s : Suite σ) : Summary :=
  let successful := (s.history.filter Call.isSuccessful).length
  { executed := s.history.length
    successful := successful
    failed := s.history.length - successful
    passedAssertions := total (fun c => c.passed.length) s.history
    failedAssertions := total (fun c => c.failed.length) s.history
    skippedAssertions := total (fun c => c.skipped.length) s.history
    cancelled := s.world.stopped }

/-- Every call succeeded and no stop was asked for. -/
def isSuccessful (s : Suite σ) : Bool :=
  s.summary.failed == 0 && !s.summary.cancelled

end Suite

end RestSuite
