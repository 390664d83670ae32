import RestSuite.Proofs.Call.Stopping
import RestSuite.Proofs.Suite.Course

/-!
# Runs that are stopped

A run looks at the flag before every node and once more at its end. Between these looks a call is
under way, which looks for itself.

* **`Suite.Idle`** — between two suites nothing was read, registered, bound, sent or entered.
* **`World.TellsNoStop`** — what was published between two worlds says nothing of a stop.
* **`Suite.execute_heedsStops`** — what a stop holds back, whenever it is asked for and by whom: the
  calls, the nodes and the events of a run.
-/

namespace RestSuite

/-! ## The journal -/

section Journal

variable {σ : Type} {w w' w₁ w₂ w₃ : World σ}

/-- Events were published, and none of them says that the run was stopped. -/
inductive World.TellsNoStop (w w' : World σ) : Prop where
  | intro {events : List Event} (htells : ∀ event ∈ events, event ≠ .cancelled)
      (hjournal : w'.environment.journal.toList = w.environment.journal.toList ++ events)

theorem World.TellsNoStop.of_eq (h : w'.environment.journal = w.environment.journal) :
    w.TellsNoStop w' :=
  .intro (List.forall_mem_nil _) (by rw [h, List.append_nil])

theorem World.TellsNoStop.trans (h : w₁.TellsNoStop w₂) (h' : w₂.TellsNoStop w₃) :
    w₁.TellsNoStop w₃ := by
  obtain ⟨htells, hjournal⟩ := h
  obtain ⟨htells', hjournal'⟩ := h'
  refine .intro (List.forall_mem_append.2 ⟨htells, htells'⟩) ?_
  rw [hjournal', hjournal, List.append_assoc]

/-- One event is published. -/
theorem World.TellsNoStop.push {event : Event}
    (h : w'.environment.journal = w.environment.journal.push event)
    (hevent : event ≠ .cancelled) : w.TellsNoStop w' :=
  .intro (List.forall_mem_singleton.2 hevent) (by rw [h, Array.toList_push])

/-- Every change of a world publishes a change of a variable, or nothing. -/
theorem World.stable_tellsNoStop : World.Stable (World.TellsNoStop (σ := σ)) where
  refl _ := .of_eq rfl
  trans h h' := h.trans h'
  settle _ _ := .of_eq rfl
  note _ _ := .of_eq rfl
  bind _ _ _ := .push rfl nofun
  unbind w name := by
    unfold World.unbind Environment.unbind
    split
    · exact .push rfl nofun
    · exact .of_eq rfl
  disk _ _ := .of_eq rfl

theorem Caller.run_tellsNoStop (c : Caller σ) (s : ResolvedScript) (w : World σ) :
    w.TellsNoStop (c.run s w).2 :=
  (quiet_of_stable World.stable_tellsNoStop c).run (fun _ _ => .of_eq rfl) s w

end Journal

namespace Suite

variable {σ : Type} {s s' t u : Suite σ} {node : Json} {r : Suite σ × Bool}
  {before after : List Json}

theorem tellsNoStop_entering (s : Suite σ) (script : Script) (resolved : ResolvedScript) :
    s.world.TellsNoStop (s.entering script resolved).world := by
  have hnoting : s.world.TellsNoStop (s.noting script).world := .of_eq rfl
  have hrun := s.caller.run_tellsNoStop resolved (s.noting script).world
  exact hnoting.trans (hrun.trans (.push rfl nofun))

/-- **Taking a node publishes no stop.** -/
theorem Taken.tellsNoStop (h : s.Taken node r) : s.world.TellsNoStop r.1.world := by
  cases h with
  | malformed _ => exact .push rfl nofun
  | unresolved _ _ => exact .push rfl nofun
  | registered _ _ _ => exact .of_eq rfl
  | wentOn _ _ _ _ => exact s.tellsNoStop_entering _ _
  | endedEarly _ _ _ _ => exact (s.tellsNoStop_entering _ _).trans (.of_eq rfl)

theorem takeAll_tellsNoStop (s : Suite σ) (nodes : List Json) :
    s.world.TellsNoStop (s.takeAll nodes).world :=
  takeAll_induction (P := fun t => s.world.TellsNoStop t.world)
    (fun _ h => h.trans (.of_eq rfl)) (fun t node h => h.trans (t.take_taken node).tellsNoStop)
    nodes (.of_eq rfl)

/-- **The journal of a run.** A stop is published once and last, if the flag is set at the end, and
not at all otherwise. -/
theorem execute_journal (s : Suite σ) (document : Json) :
    ∃ events : List Event, (∀ event ∈ events, event ≠ .cancelled)
      ∧ (s.execute document).world.environment.journal.toList =
          s.world.environment.journal.toList ++ events ++
            if (s.takeAll (nodes document)).poll.world.stopped then [.cancelled] else [] := by
  obtain ⟨htells, hjournal⟩ := s.takeAll_tellsNoStop (nodes document)
  refine ⟨_, htells, ?_⟩
  rw [← hjournal]
  unfold execute close
  split
  · exact Array.toList_push
  · exact (List.append_nil _).symm

/-! ## Calls -/

/-- A call behind which the flag is clear was not cancelled. -/
theorem Taken.cancelled (h : s.Taken node r) (hclear : r.1.world.stopped = false) {call : Call}
    (hhistory : r.1.history = s.history ++ [call]) : call.cancelled = false := by
  cases h.entered hhistory with
  | rejected _ hcall =>
    rw [hcall]
    rfl
  | performed _ _ hcall hstopped _ =>
    rw [hcall, Call.reported_cancelled]
    exact outcome_cancelled (hstopped.symm.trans hclear)

/-- No further node is taken behind a call that was cancelled. -/
theorem holdsBefore_cancelled (s : Suite σ) (nodes : List Json) :
    s.HoldsBefore nodes fun call => call.cancelled = false := by
  intro before node next after t u call hnodes hreaches hnext hhistory
  obtain ⟨-, -, hgoing⟩ := hreaches.of_concat hnext
  exact (t.take_taken node).cancelled (clear_of_poll hgoing) hhistory

/-! ## Nodes -/

/-- Nothing was done between two suites: no node was read and turned away, no template registered, no
variable changed, no request sent and no call entered. -/
structure Idle (s s' : Suite σ) : Prop where
  templates : s'.templates = s.templates
  scripts : s'.scripts = s.scripts
  history : s'.history = s.history
  bindings : s'.bindings = s.bindings
  sent : s'.world.sent = s.world.sent
  disk : s'.world.disk = s.world.disk
  notices : s'.world.notices = s.world.notices

theorem idle_poll (s : Suite σ) : s.Idle s.poll :=
  ⟨rfl, rfl, rfl, rfl, rfl, rfl, rfl⟩

/-- Behind its nodes a run does no more than look at the flag and publish a stop. -/
theorem idle_execute (s : Suite σ) (document : Json) :
    (s.takeAll (nodes document)).Idle (s.execute document) := by
  unfold execute close
  split
  · exact ⟨rfl, rfl, rfl, rfl, rfl, rfl, rfl⟩
  · exact idle_poll _

theorem Idle.trans (h : s.Idle t) (h' : t.Idle u) : s.Idle u :=
  ⟨h'.templates.trans h.templates, h'.scripts.trans h.scripts, h'.history.trans h.history,
    h'.bindings.trans h.bindings, h'.sent.trans h.sent, h'.disk.trans h.disk,
    h'.notices.trans h.notices⟩

/-- A stop that is set by the time a node is left: the run is idle from then on. -/
theorem Reaches.idle_execute {document : Json} (h : s.Reaches before t)
    (hdocument : nodes document = before ++ node :: after)
    (hstop : (t.take node).1.poll.world.stopped = true) :
    (t.take node).1.Idle (s.execute document) := by
  have hlast := s.idle_execute document
  rw [hdocument] at hlast
  rcases h.takeAll_of_stopped hstop after with heq | heq
  · rw [heq] at hlast
    exact hlast
  · rw [heq] at hlast
    exact (idle_poll _).trans hlast

/-- A stop that is set before the first node: the run is idle. -/
theorem idle_execute_of_stopped (hstop : s.poll.world.stopped = true) (document : Json) :
    s.Idle (s.execute document) := by
  have hlast := s.idle_execute document
  cases hnodes : nodes document with
  | nil =>
    rw [hnodes] at hlast
    exact hlast
  | cons node rest =>
    rw [hnodes, takeAll_cons_of_stopped hstop] at hlast
    exact (idle_poll s).trans hlast

/-! ## Runs -/

/-- **Every run heeds a stop, whenever it is asked for and by whom.** Of the calls that a run enters,
only the last can be cancelled. Each of its calls heeds a stop. Once the flag is set when a node is
left, or before the first, the run is idle. And a stop is published once and last, exactly if the flag
is set when the nodes are over. -/
theorem execute_heedsStops (s : Suite σ) (document : Json) :
    (∀ call ∈ (newCalls s (s.execute document)).dropLast, call.cancelled = false)
    ∧ (∀ before t, s.Reaches before t → ∀ script resolved,
        t.caller.HeedsStops resolved (t.noting script).world)
    ∧ (∀ before node after t, nodes document = before ++ node :: after → s.Reaches before t →
        (t.take node).1.poll.world.stopped = true → (t.take node).1.Idle (s.execute document))
    ∧ (s.poll.world.stopped = true → s.Idle (s.execute document))
    ∧ ∃ events : List Event, (∀ event ∈ events, event ≠ .cancelled)
        ∧ (s.execute document).world.environment.journal.toList =
            s.world.environment.journal.toList ++ events ++
              if (s.takeAll (nodes document)).poll.world.stopped then [.cancelled] else [] := by
  refine ⟨s.execute_newCalls document (s.holdsBefore_cancelled _), ?_, ?_,
    fun hstop => idle_execute_of_stopped hstop document, s.execute_journal document⟩
  · intro _ t _ script resolved
    exact t.caller.run_heedsStops resolved (t.noting script).world
  · intro before node after t hdocument hreaches hstop
    exact hreaches.idle_execute hdocument hstop

/-- A suite whose transport asks for a stop with every answer. -/
def haltingSuite : Suite Unit :=
  .create .standard
    { send := fun _ host => { value := .ok .ok, host := host, stop := true }
      evaluator := none
      glance := .pure () }
    .empty () .standard

-- the stop is seen on receipt: the response is kept, and the second script is not taken
example :
    ((haltingSuite.execute (.array [.object [("GET", .string "/a")],
      .object [("GET", .string "/b")]])).history.map
        fun call => (call.cancelled, call.response.isSome)) = [(true, true)] := by
  decide +kernel

end Suite

end RestSuite
