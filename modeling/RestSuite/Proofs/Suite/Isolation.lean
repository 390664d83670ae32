import RestSuite.Proofs.Call.Parallel
import RestSuite.Proofs.Suite.Pieces

/-!
# Nodes that are turned away leave no trace

A node that is turned away enters its call and does nothing else. The run behind it goes on as if the
node had not been there: no later script can see that call, since calls see neither the history nor
what is published and noted.

* **`Suite.Beside`** — a suite, and the same suite with one call more in its history.
* **`Suite.Beside.take`**, **`Suite.Beside.takeAll`** — what is done with the one and with the other.
* **`Suite.execute_rejected`** — a document with a node that is turned away, and the document without it.
-/

namespace RestSuite

/-- The record of a call of which nothing was done: an error, an empty ledger and no request. -/
structure Call.IsRejection (call : Call) (name : String) : Prop where
  script : call.script = name
  state : call.state = .failed
  error : call.error.isSome = true
  passed : call.passed = []
  failed : call.failed = []
  skipped : call.skipped = []
  unsent : call.sent = false ∧ call.request = none ∧ call.response = none

theorem Call.isRejection_rejected (name : String) (e : CallError) :
    (Call.rejected name e).IsRejection name :=
  ⟨rfl, rfl, rfl, rfl, rfl, rfl, rfl, rfl, rfl⟩

theorem World.Alike.publish {σ : Type} {w w' : World σ} (h : w.Alike w') (event event' : Event) :
    (w.publish event).Alike (w'.publish event') := by
  cases h
  exact .intro _ _

theorem World.Alike.noteAll {σ : Type} {w w' : World σ} (h : w.Alike w') (notices notices' : List Notice) :
    (w.noteAll notices).Alike (w'.noteAll notices') := by
  cases h
  exact .intro _ _

namespace Suite

variable {σ : Type} {s s' : Suite σ} {before : List Call} {extra : Call} {node : Json}

/-- The suite with one call more, somewhere in its history. What was published and noted may differ. -/
inductive Beside (before : List Call) (extra : Call) (s : Suite σ) : Suite σ → Prop where
  | intro {calls : List Call} {w : World σ} (hworld : s.world.Alike w)
      (hhistory : s.history = before ++ calls) :
      Beside before extra s { s with world := w, history := before ++ extra :: calls }

namespace Beside

theorem bindings (h : s.Beside before extra s') : s'.bindings = s.bindings := by
  cases h with
  | intro hworld _ => cases hworld; rfl

theorem templates (h : s.Beside before extra s') : s'.templates = s.templates := by
  cases h
  rfl

theorem stopped (h : s.Beside before extra s') : s'.world.stopped = s.world.stopped := by
  cases h with
  | intro hworld _ => cases hworld; rfl

/-! ## Steps -/

theorem note (h : s.Beside before extra s') (notice : Notice) :
    { s with world := s.world.note notice : Suite σ }.Beside before extra
      { s' with world := s'.world.note notice } := by
  cases h with
  | intro hworld hhistory => exact .intro (hworld.noteAll [notice] [notice]) hhistory

theorem report (h : s.Beside before extra s') (call : Call) :
    (s.report call).Beside before extra (s'.report call) := by
  cases h with
  | @intro calls w hworld hhistory =>
    have hcalls : before ++ extra :: calls ++ [call.reported] =
        before ++ extra :: (calls ++ [call.reported]) := by
      rw [List.append_assoc, List.cons_append]
    have hbefore : (s.report call).history = before ++ (calls ++ [call.reported]) := by
      rw [← List.append_assoc, ← hhistory]
      rfl
    unfold Suite.report
    dsimp only
    rw [hcalls]
    exact .intro (hworld.publish _ _) hbefore

theorem poll (h : s.Beside before extra s') : s.poll.Beside before extra s'.poll := by
  cases h with
  | intro hworld hhistory => cases hworld; exact .intro (.intro _ _) hhistory

theorem noting (h : s.Beside before extra s') (script : Script) :
    (s.noting script).Beside before extra (s'.noting script) := by
  cases h with
  | intro hworld hhistory => exact .intro (hworld.noteAll _ _) hhistory

theorem register (h : s.Beside before extra s') (templates : Templates) :
    { s with templates := templates : Suite σ }.Beside before extra
      { s' with templates := templates } := by
  cases h with
  | intro hworld hhistory => exact .intro hworld hhistory

theorem define (h : s.Beside before extra s') (template : Script) :
    (s.define template).Beside before extra (s'.define template) := by
  have hresolve : template.resolve s'.templates s'.bindings =
      template.resolve s.templates s.bindings := by rw [h.templates, h.bindings]
  have hnoting := h.noting template
  unfold Suite.define
  rw [hresolve]
  cases template.resolve s.templates s.bindings with
  | error e => exact hnoting.report _
  | ok resolved =>
    have hregister : s'.templates.register template = s.templates.register template := by
      rw [h.templates]
    dsimp only
    rw [hregister]
    exact hnoting.register (s.templates.register template)

theorem enter (h : s.Beside before extra s') (script : Script) (call : Call) {w w' : World σ}
    (hworlds : w.Alike w') :
    (s.enter script (call, w)).Beside before extra (s'.enter script (call, w')) := by
  unfold Suite.enter
  refine report ?_ call
  cases h with
  | intro _ hhistory => exact .intro hworlds hhistory

/-- Runs of a script that agree are concluded in the same way. -/
theorem conclude (h : s.Beside before extra s') (script : Script) {r r' : Call × World σ}
    (hrun : Agree World.Alike r r') :
    (s'.conclude script r').2 = (s.conclude script r).2
    ∧ (s.conclude script r).1.Beside before extra (s'.conclude script r').1 := by
  cases hrun with
  | @intro call w w' hworlds =>
    have hends : s'.endsRun call = s.endsRun call := by cases h; rfl
    have hafter := h.enter script call hworlds
    unfold Suite.conclude
    dsimp only
    rw [hends]
    cases s.endsRun call with
    | true => exact ⟨rfl, hafter.note .stoppedEarly⟩
    | false => exact ⟨rfl, hafter⟩

/-- A script is run in the same way, and enters the same call. -/
theorem perform (h : s.Beside before extra s') (script : Script) (resolved : ResolvedScript) :
    (s'.perform script resolved).2 = (s.perform script resolved).2
    ∧ (s.perform script resolved).1.Beside before extra (s'.perform script resolved).1 := by
  refine h.conclude script ?_
  cases h with
  | intro hworld _ => exact (s.caller.parallel_alike resolved).run hworld

/-- **A node is taken in the same way.** -/
theorem take (h : s.Beside before extra s') (node : Json) :
    (s'.take node).2 = (s.take node).2
    ∧ (s.take node).1.Beside before extra (s'.take node).1 := by
  unfold Suite.take
  cases Script.ofJson node with
  | error e => exact ⟨rfl, h.report _⟩
  | ok script =>
    have hnoting := h.noting script
    have hresolve : script.resolve s'.templates s'.bindings =
        script.resolve s.templates s.bindings := by rw [h.templates, h.bindings]
    dsimp only
    cases script.isTemplate with
    | true => exact ⟨rfl, h.define script⟩
    | false =>
      rw [hresolve]
      cases script.resolve s.templates s.bindings with
      | error e => exact ⟨rfl, hnoting.report _⟩
      | ok resolved => exact hnoting.perform script resolved

/-- **And so are all nodes of a document.** Induction on the run of the one suite; the other one goes the
same way. -/
theorem takeAll (h : s.Beside before extra s') (nodes : List Json) :
    (s.takeAll nodes).Beside before extra (s'.takeAll nodes) := by
  have hruns := s.runs_takeAll nodes
  generalize s.turns nodes = turns, s.takeAll nodes = t at hruns ⊢
  induction hruns generalizing s' with
  | done s => exact h
  | stopped hstop =>
    rw [takeAll_cons_of_stopped (h.poll.stopped.trans hstop)]
    exact h.poll
  | @ended s t node rest hgoing htake =>
    obtain ⟨hgoes, htaken⟩ := h.poll.take node
    rw [htake] at hgoes htaken
    rw [takeAll_cons_of_ended (h.poll.stopped.trans hgoing) (Prod.ext rfl hgoes)]
    exact htaken
  | @going s s₁ t node rest turns hgoing htake _ ih =>
    obtain ⟨hgoes, htaken⟩ := h.poll.take node
    rw [htake] at hgoes htaken
    rw [takeAll_cons_of_going (h.poll.stopped.trans hgoing) (Prod.ext rfl hgoes)]
    exact ih htaken

theorem close (h : s.Beside before extra s') : s.close.Beside before extra s'.close := by
  have hstopped := h.stopped
  unfold Suite.close
  rw [hstopped]
  split
  · cases h with
    | intro hworld hhistory => exact .intro (hworld.publish _ _) hhistory
  · exact h

end Beside

/-! ## The node itself -/

theorem beside_report (s : Suite σ) {w : World σ} (hworld : s.world.Alike w) (name : String)
    (e : CallError) :
    s.Beside s.history (.rejected name e)
      ({ s with world := w : Suite σ }.report (.rejected name e)) := by
  -- a rejected call is entered as it is
  show s.Beside s.history (.rejected name e)
    { s with
      world := w.publish (.completed s.history.length (.rejected name e))
      history := s.history ++ [.rejected name e] }
  cases hworld
  exact .intro (.intro _ _) (List.append_nil _).symm

/-- **A node that is turned away enters its call, and that is all.** -/
theorem Rejects.take_beside (h : s.Rejects node) :
    (s.take node).2 = true ∧ ∃ extra : Call, extra.IsRejection (callName node)
      ∧ s.Beside s.history extra (s.take node).1 := by
  have htaken := s.take_taken node
  generalize s.take node = r at htaken ⊢
  cases htaken with
  | malformed hread =>
    rw [callName_of_error hread]
    exact ⟨rfl, _, Call.isRejection_rejected _ _, s.beside_report (.intro _ _) _ _⟩
  | unresolved hread _ =>
    rw [callName_of_ok hread]
    exact ⟨rfl, _, Call.isRejection_rejected _ _, s.beside_report (.intro _ _) _ _⟩
  | registered hread _ hresolve => exact (h.not_resolved hread hresolve).elim
  | wentOn hread _ hresolve _ => exact (h.not_resolved hread hresolve).elim
  | endedEarly hread _ hresolve _ => exact (h.not_resolved hread hresolve).elim

theorem Rejects.poll (h : s.Rejects node) : s.poll.Rejects node := by
  cases h with
  | malformed hread => exact .malformed hread
  | unresolved hread hresolve => exact .unresolved hread hresolve

/-! ## Documents -/

/-- The runs with and without the node, from the moment in which it is taken. -/
theorem execute_beside (hslow : s.settings.failFast = false) (hsteady : s.services.Steady)
    {xs : List Json} {bad : Json} (hgoing : (s.takeAll xs).poll.world.stopped = false)
    (hbad : (s.takeAll xs).Rejects bad) (ys : List Json) :
    ∃ extra : Call, extra.IsRejection (callName bad)
      ∧ (s.execute (.array (xs ++ ys))).Beside (s.takeAll xs).history extra
          (s.execute (.array (xs ++ [bad] ++ ys))) := by
  have hsteady' : (s.takeAll xs).services.Steady := by rw [takeAll_services]; exact hsteady
  have hpolled : (s.takeAll xs).poll.poll = (s.takeAll xs).poll := poll_poll hsteady'
  obtain ⟨hgoes, extra, hextra, htaken⟩ := hbad.poll.take_beside
  refine ⟨extra, hextra, ?_⟩
  -- the node is taken where the nodes in front have led
  have hgoing' : (s.takeAll xs).poll.poll.world.stopped = false := by rw [hpolled]; exact hgoing
  have htake : (s.takeAll xs).poll.poll.take bad =
      (((s.takeAll xs).poll.take bad).1, true) := by
    rw [hpolled, ← hgoes]
  have hfront : (s.takeAll (xs ++ [bad])).poll = ((s.takeAll xs).poll.take bad).1.poll := by
    rw [takeAll_append_poll hslow hsteady, takeAll_cons_of_going hgoing' htake]
    rfl
  have hnow : (s.takeAll xs).poll.Beside (s.takeAll xs).history extra
      (s.takeAll (xs ++ [bad])).poll := by
    have hlooked := htaken.poll
    rw [hpolled] at hlooked
    rw [hfront]
    exact hlooked
  have hbehind := ((hnow.takeAll ys).poll).close
  have hwithout := takeAll_append_poll hslow hsteady xs ys
  have hwith := takeAll_append_poll hslow hsteady (xs ++ [bad]) ys
  rw [← hwithout, ← hwith] at hbehind
  exact hbehind

/-- **Nodes that are turned away are isolated.** Take a node out of a document that is turned away where
its turn comes: the variables, templates, scripts and requests are the same without it, and so is all
that lies outside. The calls are the same too, but for the call of the node itself, which is at its
place and of which nothing was done. -/
theorem execute_rejected (s : Suite σ) (xs ys : List Json) (bad : Json)
    (hslow : s.settings.failFast = false) (hsteady : s.services.Steady)
    (hgoing : (s.takeAll xs).poll.world.stopped = false) (hbad : (s.takeAll xs).Rejects bad) :
    (s.execute (.array (xs ++ [bad] ++ ys))).bindings = (s.execute (.array (xs ++ ys))).bindings
    ∧ (s.execute (.array (xs ++ [bad] ++ ys))).templates =
        (s.execute (.array (xs ++ ys))).templates
    ∧ (s.execute (.array (xs ++ [bad] ++ ys))).scripts = (s.execute (.array (xs ++ ys))).scripts
    ∧ (s.execute (.array (xs ++ [bad] ++ ys))).world.sent =
        (s.execute (.array (xs ++ ys))).world.sent
    ∧ (s.execute (.array (xs ++ [bad] ++ ys))).world.host =
        (s.execute (.array (xs ++ ys))).world.host
    ∧ (s.execute (.array (xs ++ [bad] ++ ys))).world.disk =
        (s.execute (.array (xs ++ ys))).world.disk
    ∧ ∃ (extra : Call) (calls : List Call), extra.IsRejection (callName bad)
      ∧ (s.execute (.array (xs ++ ys))).history = (s.takeAll xs).history ++ calls
      ∧ (s.execute (.array (xs ++ [bad] ++ ys))).history =
          (s.takeAll xs).history ++ extra :: calls := by
  obtain ⟨extra, hextra, hbeside⟩ := execute_beside hslow hsteady hgoing hbad ys
  generalize s.execute (.array (xs ++ ys)) = t at hbeside ⊢
  generalize s.execute (.array (xs ++ [bad] ++ ys)) = t' at hbeside ⊢
  cases hbeside with
  | intro hworld hhistory =>
    cases hworld
    exact ⟨rfl, rfl, rfl, rfl, rfl, rfl, extra, _, hextra, hhistory, rfl⟩

/-- A template with a header. -/
def headerTemplate : Json :=
  .object [("name", .string "base.template"), ("headers", .object [("A", .string "1")])]

/-- A script below a template that there is not. -/
def strayScript : Json :=
  .object [("name", .string "stray"), ("template", .string "nope"), ("GET", .string "/stray")]

/-- A script below the template that there is. -/
def namedScript : Json :=
  .object [("name", .string "kept"), ("template", .string "base"), ("GET", .string "/kept")]

/-- Between the two, the stray script costs nothing but its call. -/
theorem execute_rejected_stray :
    replaySuite.settings.failFast = false ∧ replaySuite.services.Steady
    ∧ (replaySuite.takeAll [headerTemplate]).poll.world.stopped = false
    ∧ (replaySuite.takeAll [headerTemplate]).Rejects strayScript
    ∧ (replaySuite.execute (.array ([headerTemplate] ++ [strayScript] ++ [namedScript]))).world.sent =
        (replaySuite.execute (.array ([headerTemplate] ++ [namedScript]))).world.sent
    ∧ ∃ (extra : Call) (calls : List Call), extra.IsRejection (callName strayScript)
      ∧ (replaySuite.execute (.array ([headerTemplate] ++ [namedScript]))).history =
          (replaySuite.takeAll [headerTemplate]).history ++ calls
      ∧ (replaySuite.execute
            (.array ([headerTemplate] ++ [strayScript] ++ [namedScript]))).history =
          (replaySuite.takeAll [headerTemplate]).history ++ extra :: calls := by
  have hsteady : replaySuite.services.Steady := Services.steady_of_glance fun _ => rfl
  have hgoing : (replaySuite.takeAll [headerTemplate]).poll.world.stopped = false := by
    decide +kernel
  have hbad : (replaySuite.takeAll [headerTemplate]).Rejects strayScript :=
    rejects_iff.2 (by decide +kernel)
  obtain ⟨-, -, -, hsent, -, -, hcalls⟩ :=
    execute_rejected replaySuite [headerTemplate] [namedScript] strayScript rfl hsteady hgoing hbad
  exact ⟨rfl, hsteady, hgoing, hbad, hsent, hcalls⟩

example : ((replaySuite.execute (.array [headerTemplate, strayScript, namedScript])).history.map
    fun call => (call.script, call.isSuccessful)) = [("stray", false), ("kept", true)] := by
  decide +kernel

end Suite

end RestSuite
