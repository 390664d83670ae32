import RestSuite.Proofs.Suite.Cancellation
import RestSuite.Proofs.Suite.Records

/-!
# Documents that are run in pieces

A run that no call can end does with two lists of nodes what two runs do, one behind the other. What a
first run leaves is where a second one begins, and a stop that the first one has seen is seen by the
second before its first node. Only the stop itself is published by each of the runs.

Two looks at the flag lie between the runs, where one run over all nodes has one.

* **`Services.Steady`** — the second of two such looks finds nothing that the first did not.
* **`Suite.takeAll_append_poll`** — the nodes of two lists, one behind the other.
* **`Suite.execute_pieces`** — two documents and the one that is made of them.
-/

namespace RestSuite

/-- A look at the flag directly behind another one changes nothing. So it is if a stop is asked for only
by what the run itself calls: behaviors, the evaluator and the transport. -/
def Services.Steady {σ : Type} (services : Services σ) : Prop :=
  ∀ w : World σ, (w.poll services).poll services = w.poll services

theorem Services.steady_of_glance {σ : Type} {services : Services σ}
    (h : ∀ host, services.glance host = .pure () host) : services.Steady := by
  have hpoll : ∀ w : World σ, w.poll services = w := by
    intro w
    unfold World.poll World.settle
    rw [h w.host]
    dsimp only [Reply.pure]
    rw [Bool.or_false]
  intro w
  rw [hpoll, hpoll]

namespace Suite

variable {σ : Type} {s : Suite σ} {node : Json} {nodes xs ys : List Json}

/-! ## Looks at the flag -/

theorem poll_poll (hsteady : s.services.Steady) : s.poll.poll = s.poll := by
  have hworld := hsteady s.world
  show { s with world := (s.world.poll s.services).poll s.services } = s.poll
  rw [hworld]
  rfl

theorem round_poll (hsteady : s.services.Steady) (node : Json) :
    s.poll.round node = s.round node := by
  unfold round
  rw [poll_poll hsteady]

/-- A run may look at the flag once more before it begins. -/
theorem takeAll_poll (hsteady : s.services.Steady) (nodes : List Json) :
    (s.poll.takeAll nodes).poll = (s.takeAll nodes).poll := by
  cases nodes with
  | nil => exact poll_poll hsteady
  | cons node rest => rw [takeAll, takeAll, round_poll hsteady]

/-- Behind a stop no node is taken. -/
theorem takeAll_of_stopped (hsteady : s.services.Steady) (hstop : s.poll.world.stopped = true)
    (nodes : List Json) : (s.takeAll nodes).poll = s.poll := by
  cases nodes with
  | nil => rfl
  | cons node rest => rw [takeAll_cons_of_stopped hstop, poll_poll hsteady]

/-! ## Nodes -/

theorem Taken.services {r : Suite σ × Bool} (h : s.Taken node r) : r.1.services = s.services := by
  cases h <;> rfl

theorem takeAll_services (s : Suite σ) (nodes : List Json) :
    (s.takeAll nodes).services = s.services :=
  takeAll_induction (P := fun t => t.services = s.services) (fun _ h => h)
    (fun t node h => (t.take_taken node).services.trans h) nodes rfl

/-- **Nodes behind nodes.** Induction on the run of those in front. Either a stop is seen on the way, and
then the others are not taken in either case, or the run comes to them. -/
theorem takeAll_append_poll (hslow : s.settings.failFast = false) (hsteady : s.services.Steady)
    (xs ys : List Json) :
    (s.takeAll (xs ++ ys)).poll = ((s.takeAll xs).poll.takeAll ys).poll := by
  have hruns := s.runs_takeAll xs
  generalize s.turns xs = turns, s.takeAll xs = t at hruns ⊢
  induction hruns with
  | done s => exact (takeAll_poll hsteady ys).symm
  | stopped hstop =>
    rw [List.cons_append, takeAll_cons_of_stopped hstop, poll_poll hsteady, takeAll_poll hsteady,
      takeAll_of_stopped hsteady hstop]
  | @ended s t node rest _ htake =>
    have htaken := s.poll.take_taken node
    rw [htake] at htaken
    cases hslow.symm.trans (htaken.failFast_of_ended rfl)
  | @going s s₁ t node rest turns hgoing htake _ ih =>
    have htaken := s.poll.take_taken node
    rw [htake] at htaken
    have hsettings : s₁.settings = s.settings := htaken.settings
    have hservices : s₁.services = s.services := htaken.services
    rw [List.cons_append, takeAll_cons_of_going hgoing htake]
    exact ih (hsettings ▸ hslow) (hservices ▸ hsteady)

/-! ## Documents -/

/-- A run that begins where another one has ended. If that one has seen a stop, the suite stays as it is
but for the event that each run publishes; otherwise nothing lies between them. -/
theorem execute_close (hsteady : s.services.Steady) (hpolled : s.poll = s) (ys : List Json) :
    s.close.execute (.array ys) =
      if s.world.stopped then
        { (s.takeAll ys).poll.close with
          world := (s.takeAll ys).poll.close.world.publish .cancelled }
      else (s.takeAll ys).poll.close := by
  cases hstop : s.world.stopped with
  | true =>
    let stopped : Suite σ := { s with world := s.world.publish .cancelled }
    have hclose : s.close = stopped := if_pos hstop
    have hsteadyStopped : stopped.services.Steady := hsteady
    have hstopped : stopped.poll = stopped :=
      congrArg (fun u : Suite σ => { u with world := u.world.publish .cancelled }) hpolled
    have hstop' : s.poll.world.stopped = true := by rw [hpolled]; exact hstop
    have hstopStopped : stopped.poll.world.stopped = true := by rw [hstopped]; exact hstop
    -- neither of the two goes on to a node
    have hagain := takeAll_of_stopped hsteadyStopped hstopStopped ys
    have hwhole := takeAll_of_stopped hsteady hstop' ys
    rw [hclose, hwhole, hpolled, hclose]
    show (stopped.takeAll ys).poll.close = _
    rw [hagain, hstopped]
    exact if_pos hstop
  | false =>
    have hclose : s.close = s := if_neg (by rw [hstop]; exact Bool.false_ne_true)
    rw [hclose]
    rfl

/-- **Running a document in pieces.** Two documents that are run one after the other lead to the same
suite as the one that holds the nodes of both: the same variables, templates, scripts, history, requests
and events. If a stop was seen in the first, it is published once more. And a document that is no array
is run as the array that holds it. -/
theorem execute_pieces (s : Suite σ) (hslow : s.settings.failFast = false)
    (hsteady : s.services.Steady) :
    (∀ xs ys : List Json,
      (s.execute (.array xs)).execute (.array ys) =
        if (s.execute (.array xs)).isCancelled then
          { s.execute (.array (xs ++ ys)) with
            world := (s.execute (.array (xs ++ ys))).world.publish .cancelled }
        else s.execute (.array (xs ++ ys)))
    ∧ ∀ node : Json, (∀ items, node ≠ .array items) →
        s.execute node = s.execute (.array [node]) := by
  constructor
  · intro xs ys
    have hservices := s.takeAll_services xs
    have hsteady' : (s.takeAll xs).services.Steady := by rw [hservices]; exact hsteady
    have hrest := execute_close (s := (s.takeAll xs).poll) hsteady' (poll_poll hsteady') ys
    have hwhole : s.execute (.array (xs ++ ys)) = ((s.takeAll xs).poll.takeAll ys).poll.close :=
      congrArg close (takeAll_append_poll hslow hsteady xs ys)
    have hcancelled := (s.takeAll xs).poll.close_isCancelled
    rw [hwhole]
    show (s.takeAll xs).poll.close.execute (.array ys) =
      if (s.takeAll xs).poll.close.isCancelled then _ else _
    rw [hcancelled]
    exact hrest
  · intro node hsingle
    cases node with
    | array items => exact absurd rfl (hsingle items)
    | _ => rfl

/-- Two scripts, of which the first is never answered without a stop. -/
theorem execute_pieces_halting :
    haltingSuite.settings.failFast = false ∧ haltingSuite.services.Steady
    ∧ (haltingSuite.execute (.array [.object [("GET", .string "/a")]])).isCancelled = true
    ∧ (haltingSuite.execute (.array [.object [("GET", .string "/a")]])).execute
        (.array [.object [("GET", .string "/b")]]) =
      { haltingSuite.execute
          (.array [.object [("GET", .string "/a")], .object [("GET", .string "/b")]]) with
        world := (haltingSuite.execute (.array [.object [("GET", .string "/a")],
          .object [("GET", .string "/b")]])).world.publish .cancelled }
    ∧ haltingSuite.execute (.object [("GET", .string "/a")]) =
        haltingSuite.execute (.array [.object [("GET", .string "/a")]]) := by
  have hsteady : haltingSuite.services.Steady := Services.steady_of_glance fun _ => rfl
  have hstop : (haltingSuite.execute (.array [.object [("GET", .string "/a")]])).isCancelled = true := by
    decide +kernel
  obtain ⟨hpieces, hsingle⟩ := execute_pieces haltingSuite rfl hsteady
  refine ⟨rfl, hsteady, hstop, ?_, hsingle _ nofun⟩
  rw [hpieces, if_pos hstop]
  rfl

end Suite

end RestSuite
