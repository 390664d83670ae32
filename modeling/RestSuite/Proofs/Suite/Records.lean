import RestSuite.Proofs.Script.Inheritance
import RestSuite.Proofs.Suite.FailFast
import RestSuite.Proofs.Suite.Success

/-!
# The records of a run

Every node that a run takes leaves one call in the history, unless it is a template that is accepted.
Calls are entered where a node is turned away and where a script was run. This module puts the calls of
a run beside the nodes that it took.

* **`Suite.callName`** — the name under which the call of a node is entered.
* **`Suite.getElem?_turns_iff`** — the turns of a run are the nodes that it reaches.
* **`Suite.take_cases`** — a turn enters one call or, if it defines a template, none.
* **`Suite.execute_records`** — a run enters the calls of its turns, in order, behind the calls that were
  there.
-/

namespace RestSuite

/-! ## The script of a call -/

/-- However a call ends, it is that of its script. -/
theorem Caller.Ends.script {σ : Type} {c : Caller σ} {s : ResolvedScript} {w : World σ}
    {r : Call × World σ} (h : c.Ends s w r) : r.1.script = s.name := by
  cases h <;> rfl

theorem Call.reported_script (call : Call) : call.reported.script = call.script := by
  obtain ⟨state, hreported⟩ := call.reported_eq
  rw [hreported]
  rfl

theorem Script.resolve_name {s : Script} {t : Templates} {b : Bindings} {r : ResolvedScript}
    (h : s.resolve t b = .ok r) : r.name = s.name := by
  obtain ⟨path, line?, layer, -, -, -, rfl⟩ := Script.resolve_eq_ok_iff.1 h
  rfl

namespace Suite

variable {σ : Type} {s t : Suite σ} {node : Json} {nodes : List Json}

/-- The name under which the call of a node is entered: its own, if it has one that is a text. A script
without a name gets a generated one, and any other node a placeholder. -/
def callName (node : Json) : String :=
  match node.field? "name" with
  | some (.string name) => name
  | some _ => "<invalid script>"
  | none => if (Script.ofJson node).isOk then Script.unnamed else "<invalid script>"

/-- A script is read with the name that its node has, or a generated one. -/
theorem callName_of_ok {script : Script} (h : Script.ofJson node = .ok script) :
    callName node = script.name := by
  have hread : (Script.ofJson node).isOk = true := by
    rw [h]
    rfl
  unfold callName
  rw [hread]
  cases node with
  | object fields =>
    unfold Script.ofJson at h
    dsimp only [Json.field?] at h ⊢
    split at h
    · next hnone =>
      rw [hnone]
      obtain ⟨_, hname, h⟩ := bind_eq_ok_iff.1 h
      cases hname
      split at h <;> cases h <;> rfl
    · next hsome =>
      rw [hsome]
      obtain ⟨_, hname, h⟩ := bind_eq_ok_iff.1 h
      cases hname
      split at h <;> cases h <;> rfl
    · cases h
  | _ => cases h

/-- The call of a node that is no script has its name, or a placeholder. -/
theorem callName_of_error {e : ConfigurationError} (h : Script.ofJson node = .error e) :
    callName node = nodeName node := by
  unfold callName nodeName
  rw [h]
  cases node.field? "name" with
  | none => rfl
  | some value => cases value <;> rfl

/-! ## Turns -/

/-- The node defines a template: it is one, and it can be combined with those above it. -/
def Turn.defines (turn : Turn σ) : Bool :=
  match Script.ofJson turn.node with
  | .error _ => false
  | .ok script =>
    script.isTemplate && (script.resolve turn.suite.templates turn.suite.bindings).isOk

theorem Turn.defines_of_ok {turn : Turn σ} {script : Script}
    (h : Script.ofJson turn.node = .ok script) : turn.defines =
      (script.isTemplate && (script.resolve turn.suite.templates turn.suite.bindings).isOk) := by
  unfold Turn.defines
  rw [h]

theorem Turn.defines_of_error {turn : Turn σ} {e : ConfigurationError}
    (h : Script.ofJson turn.node = .error e) : turn.defines = false := by
  unfold Turn.defines
  rw [h]

/-- The first turn is taken where the run begins. -/
theorem first_turn_iff {first : Json} (hgoing : s.poll.world.stopped = false) :
    some (⟨s.poll, first⟩ : Turn σ) = some ⟨t, node⟩ ↔ some first = some node ∧ s.Reaches [] t := by
  have hreaches : s.Reaches [] s.poll := .intro (.nil s) hgoing
  constructor
  · intro h
    cases h
    exact ⟨rfl, hreaches⟩
  · rintro ⟨hnode, ht⟩
    cases hnode
    rw [ht.unique hreaches]

/-- **The turns of a run are the nodes that it reaches.** Induction on the run; behind each node it
starts anew from the suite that the node has left. -/
theorem getElem?_turns_iff {i : Nat} : (s.turns nodes)[i]? = some ⟨t, node⟩ ↔
    nodes[i]? = some node ∧ s.Reaches (nodes.take i) t := by
  have hruns := s.runs_takeAll nodes
  generalize s.turns nodes = turns, s.takeAll nodes = u at hruns ⊢
  induction hruns generalizing i with
  | done s => exact ⟨nofun, fun ⟨h, _⟩ => nomatch h⟩
  | stopped hstop =>
    refine ⟨nofun, ?_⟩
    rintro ⟨-, hreaches⟩
    cases hstop.symm.trans hreaches.going
  | ended hgoing htake =>
    cases i with
    | zero => exact first_turn_iff hgoing
    | succ i =>
      refine ⟨nofun, ?_⟩
      rintro ⟨-, hreaches⟩
      -- nothing is reached behind a call that ends the run
      obtain ⟨_, -, htake', -⟩ := hreaches.cons_inv
      cases htake.symm.trans htake'
  | going hgoing htake _ ih =>
    cases i with
    | zero => exact first_turn_iff hgoing
    | succ i =>
      rw [List.getElem?_cons_succ, List.getElem?_cons_succ, List.take_succ_cons]
      refine ih.trans (and_congr_right fun _ => ⟨fun h => h.cons hgoing htake, fun hreaches => ?_⟩)
      obtain ⟨_, -, htake', hrest⟩ := hreaches.cons_inv
      cases htake.symm.trans htake'
      exact hrest

/-- They are the first nodes. -/
theorem turns_prefix (s : Suite σ) (nodes : List Json) :
    (s.turns nodes).map Turn.node <+: nodes := by
  rw [List.prefix_iff_getElem?]
  intro i hi
  rw [List.getElem_map]
  exact (getElem?_turns_iff.1 (List.getElem?_eq_getElem (by simpa using hi))).1

/-- Only where the settings say so, a call ends the run. -/
theorem Taken.failFast_of_ended {r : Suite σ × Bool} (h : s.Taken node r) (hended : r.2 = false) :
    s.settings.failFast = true := by
  cases h with
  | endedEarly _ _ _ hends =>
    unfold endsRun at hends
    rw [Bool.and_assoc, Bool.and_eq_true] at hends
    exact hends.1
  | _ => cases hended

/-- A run that no call can end takes all nodes, if no stop is seen. -/
theorem turns_complete (hslow : s.settings.failFast = false)
    (hclear : (s.takeAll nodes).world.stopped = false) : (s.turns nodes).map Turn.node = nodes := by
  have hruns := s.runs_takeAll nodes
  generalize s.turns nodes = turns, s.takeAll nodes = t at hruns hclear ⊢
  induction hruns with
  | done s => rfl
  | stopped hstop => cases hclear.symm.trans hstop
  | @ended s t node rest _ htake =>
    have htaken := s.poll.take_taken node
    rw [htake] at htaken
    cases hslow.symm.trans (htaken.failFast_of_ended rfl)
  | @going s s₁ t node rest turns _ htake _ ih =>
    have htaken := s.poll.take_taken node
    rw [htake] at htaken
    have hsettings : s₁.settings = s.settings := htaken.settings
    rw [List.map_cons, ih (hsettings ▸ hslow) hclear]

/-! ## Calls of turns -/

/-- The call is the one that the turn enters, under the name of its node. -/
structure Turn.Leaves (turn : Turn σ) (call : Call) : Prop where
  history : (turn.suite.take turn.node).1.history = turn.suite.history ++ [call]
  script : call.script = callName turn.node

/-- A script that is run enters its call under its name. -/
theorem outcome_script {script : Script} {resolved : ResolvedScript}
    (hread : Script.ofJson node = .ok script)
    (hresolve : script.resolve s.templates s.bindings = .ok resolved) :
    (s.outcome script resolved).1.reported.script = callName node := by
  have hends : s.caller.Ends resolved (s.noting script).world (s.outcome script resolved) :=
    s.caller.run_ends resolved (s.noting script).world
  rw [Call.reported_script, hends.script, Script.resolve_name hresolve, callName_of_ok hread]

/-- **A turn defines a template and enters no call, or it enters one call.** -/
theorem take_cases (s : Suite σ) (node : Json) :
    (⟨s, node⟩ : Turn σ).defines = true ∧ (s.take node).1.history = s.history
      ∨ (⟨s, node⟩ : Turn σ).defines = false ∧ ∃ call, Turn.Leaves ⟨s, node⟩ call := by
  have htaken := s.take_taken node
  have hleaves : ∀ call, (s.take node).1.history = s.history ++ [call] →
      call.script = callName node → ∃ call, Turn.Leaves ⟨s, node⟩ call :=
    fun call hhistory hscript => ⟨call, hhistory, hscript⟩
  generalize s.take node = r at htaken hleaves ⊢
  cases htaken with
  | malformed hread =>
    exact .inr ⟨Turn.defines_of_error hread, hleaves _ rfl (callName_of_error hread).symm⟩
  | unresolved hread hresolve =>
    rw [Turn.defines_of_ok hread, hresolve]
    exact .inr ⟨Bool.and_false _, hleaves _ rfl (callName_of_ok hread).symm⟩
  | registered hread htemplate hresolve =>
    rw [Turn.defines_of_ok hread, htemplate, hresolve]
    exact .inl ⟨rfl, rfl⟩
  | wentOn hread hscript hresolve _ =>
    rw [Turn.defines_of_ok hread, hscript]
    exact .inr ⟨rfl, hleaves _ rfl (outcome_script hread hresolve)⟩
  | endedEarly hread hscript hresolve _ =>
    rw [Turn.defines_of_ok hread, hscript]
    exact .inr ⟨rfl, hleaves _ rfl (outcome_script hread hresolve)⟩

/-- The calls of a single turn. -/
theorem take_records (s : Suite σ) (node : Json) :
    ∃ calls, (s.take node).1.history = s.history ++ calls
      ∧ List.Forall₂ Turn.Leaves ([⟨s, node⟩].filter fun turn => !turn.defines) calls := by
  rcases s.take_cases node with ⟨hdefines, hhistory⟩ | ⟨henters, call, hcall⟩
  · refine ⟨[], hhistory.trans (List.append_nil _).symm, ?_⟩
    rw [List.filter_cons_of_neg (by rw [hdefines]; exact Bool.false_ne_true)]
    exact .nil
  · refine ⟨[call], hcall.history, ?_⟩
    rw [List.filter_cons_of_pos (by rw [henters]; rfl)]
    exact .cons hcall .nil

/-- **The calls of a run are those of its turns.** Induction on the run. -/
theorem takeAll_records (s : Suite σ) (nodes : List Json) :
    ∃ calls, (s.takeAll nodes).history = s.history ++ calls
      ∧ List.Forall₂ Turn.Leaves ((s.turns nodes).filter fun turn => !turn.defines) calls := by
  have hruns := s.runs_takeAll nodes
  generalize s.turns nodes = turns, s.takeAll nodes = t at hruns ⊢
  induction hruns with
  | done s => exact ⟨[], (List.append_nil _).symm, .nil⟩
  | stopped _ => exact ⟨[], (List.append_nil _).symm, .nil⟩
  | @ended s t node rest _ htake =>
    obtain ⟨entered, hentered, hrecords⟩ := s.poll.take_records node
    rw [htake] at hentered
    exact ⟨entered, hentered, hrecords⟩
  | @going s s₁ t node rest turns _ htake _ ih =>
    obtain ⟨entered, hentered, hrecords⟩ := s.poll.take_records node
    rw [htake] at hentered
    have hentered : s₁.history = s.history ++ entered := hentered
    obtain ⟨calls, hcalls, hrest⟩ := ih
    rw [← List.singleton_append, List.filter_append]
    refine ⟨entered ++ calls, ?_, List.rel_append hrecords hrest⟩
    rw [hcalls, hentered, List.append_assoc]

/-- **One record for each node.** The run of a document adds calls behind those that are there, and
these are its answer. They are, in the order of the document, one call for each node that is taken and
defines no template: the call that this turn enters, under the name of the node. The nodes that are
taken are the first ones of the document, and all of them if no call can end the run and no stop is
seen. -/
theorem execute_records (s : Suite σ) (document : Json) :
    (s.execute document).history = s.history ++ newCalls s (s.execute document)
    ∧ List.Forall₂ Turn.Leaves ((s.turns (Suite.nodes document)).filter fun turn => !turn.defines)
        (newCalls s (s.execute document))
    ∧ (s.turns (Suite.nodes document)).map Turn.node <+: Suite.nodes document
    ∧ (s.settings.failFast = false → (s.execute document).isCancelled = false →
        (s.turns (Suite.nodes document)).map Turn.node = Suite.nodes document) := by
  obtain ⟨calls, hhistory, hrecords⟩ := s.takeAll_records (Suite.nodes document)
  rw [← execute_history] at hhistory
  have hnew : newCalls s (s.execute document) = calls := by
    unfold newCalls
    rw [hhistory, List.drop_left]
  rw [hnew]
  refine ⟨hhistory, hrecords, s.turns_prefix _, ?_⟩
  intro hslow hclear
  rw [execute_isCancelled] at hclear
  exact turns_complete hslow (clear_of_poll hclear)

/-- A template, a node that is no script, a template below one that there is not, a script without a
name, and one whose URI is no text. -/
def mixedDocument : Json :=
  .array [
    .object [("name", .string "base.template"), ("GET", .string "/base")],
    .string "ping",
    .object [("name", .string "lost.template"), ("template", .string "nope")],
    .object [("template", .string "base")],
    .object [("name", .string "last"), ("GET", .null)]]

/-- All of them are taken, and all but the first have their record. -/
theorem records_mixed :
    replaySuite.settings.failFast = false ∧ (replaySuite.execute mixedDocument).isCancelled = false
    ∧ (replaySuite.turns (Suite.nodes mixedDocument)).map Turn.node = Suite.nodes mixedDocument
    ∧ List.Forall₂ Turn.Leaves
        ((replaySuite.turns (Suite.nodes mixedDocument)).filter fun turn => !turn.defines)
        (newCalls replaySuite (replaySuite.execute mixedDocument)) := by
  have hclear : (replaySuite.execute mixedDocument).isCancelled = false := by decide +kernel
  obtain ⟨-, hrecords, -, hall⟩ := replaySuite.execute_records mixedDocument
  exact ⟨rfl, hclear, hall rfl hclear, hrecords⟩

example : (newCalls replaySuite (replaySuite.execute mixedDocument)).map Call.script =
    ["<invalid script>", "lost.template", Script.unnamed, "last"] := by
  decide +kernel

end Suite

end RestSuite
