import RestSuite.Proofs.Suite.Reachable
import RestSuite.Proofs.Suite.Success

/-!
# Following a suite by its events

Variables change in three places: between runs, where a request is built and where extractors ask for
it. All of them publish what they do, and so does every entry into the history. An observer who sees
nothing but the events can therefore keep a copy of both.

* **`Bindings.replay`**, **`Event.entries`** — the variables and the calls that a list of events tells of.
* **`Journal.Receives`** — what a subscriber has received that never falls too far behind.
* **`World.Publishes`**, **`Suite.Publishes`** — all that changed between two moments was published.
* **`Suite.Session`** — a suite and the place of its last reset in the journal, through any operations.
* **`Suite.Session.replay_received`** — the copy of a subscriber is exact.
-/

namespace RestSuite

variable {σ : Type}

/-! ## What events tell -/

/-- What an observer does with an event who keeps a copy of the variables. -/
def Event.applyTo (b : Bindings) : Event → Bindings
  | .bound name value => OrderedMap.put b name value
  | .unbound name => OrderedMap.erase b name
  | .completed _ _ => b
  | .cancelled => b

/-- The copy of the variables after some events. -/
def Bindings.replay (b : Bindings) (events : List Event) : Bindings :=
  events.foldl Event.applyTo b

theorem Bindings.replay_append (b : Bindings) (xs ys : List Event) :
    b.replay (xs ++ ys) = (b.replay xs).replay ys :=
  List.foldl_append

/-- The call that an event enters, with its index. -/
def Event.entry? : Event → Option (Call × Nat)
  | .completed index call => some (call, index)
  | _ => none

/-- The calls that some events enter, each with its index. -/
def Event.entries (events : List Event) : List (Call × Nat) :=
  events.filterMap Event.entry?

theorem Event.entries_append (xs ys : List Event) :
    Event.entries (xs ++ ys) = Event.entries xs ++ Event.entries ys :=
  List.filterMap_append

/-! ## Subscribers that keep up -/

namespace Journal

variable {j : Journal} {first place : Nat} {events : List Event}

/-- A subscriber reads while the journal grows, as often as it likes and as many events at a time as it
likes. It is never behind by more than is kept for it. Up to which place it has read, and what it has
received so far. -/
inductive Receives (j : Journal) (first : Nat) : Nat → List Event → Prop where
  | subscribed : Receives j first first []
  | read {place lost : Nat} {events found : List Event} (published most : Nat)
      (h : Receives j first place events) (hpublished : published ≤ j.size)
      (hkept : published - place ≤ capacity)
      (hfound : Journal.unread (j.take published) place = (lost, found)) :
      Receives j first (place + lost + (found.take most).length) (events ++ found.take most)

/-- Nothing is lost as long as no more is unread than is kept. -/
theorem unread_take {published : Nat} (hpublished : published ≤ j.size)
    (hkept : published - place ≤ capacity) :
    Journal.unread (j.take published) place = (0, (j.toList.take published).drop place) := by
  have hsize : (j.take published).size = published := by
    rw [Array.take_eq_extract, Array.size_extract, Nat.sub_zero]
    exact Nat.min_eq_left hpublished
  have hlist : (j.take published).toList = j.toList.take published := by
    rw [Array.take_eq_extract, Array.toList_extract, List.extract_eq_take_drop]
    rfl
  have hlost : published - place - capacity = 0 := Nat.sub_eq_zero_of_le hkept
  unfold unread
  rw [hsize, hlist, hlost]
  rfl

/-- **Nothing is lost and nothing comes twice.** Up to where a subscriber has read, the journal is what
was there when it subscribed and what it has received since. Induction on the readings. -/
theorem Receives.take_append (h : j.Receives first place events) :
    j.toList.take first ++ events = j.toList.take place := by
  induction h with
  | subscribed => exact List.append_nil _
  | @read place lost events found published most _ hpublished hkept hfound ih =>
    rw [unread_take hpublished hkept] at hfound
    cases hfound
    -- what is taken is a prefix of all that is unread, whatever is published later
    have hprefix : ((j.toList.take published).drop place).take most <+: j.toList.drop place := by
      rw [List.drop_take]
      exact (List.take_prefix _ _).trans (List.take_prefix _ _)
    have htaken := List.prefix_iff_eq_take.1 hprefix
    rw [← List.append_assoc, ih, Nat.add_zero, List.take_add, ← htaken]

/-- A subscriber who has read everything from the beginning has received the whole journal. -/
theorem Receives.eq_toList (h : j.Receives 0 j.size events) : events = j.toList := by
  have hall := h.take_append
  rw [← Array.length_toList, List.take_length] at hall
  exact hall

/-- Any journal can be kept up with, by reading every event when it is published. -/
theorem receives_take (j : Journal) {n : Nat} (hn : n ≤ j.size) :
    j.Receives 0 n (j.toList.take n) := by
  induction n with
  | zero => exact .subscribed
  | succ n ih =>
    have hkept : n + 1 - n ≤ capacity := by
      rw [Nat.add_sub_cancel_left]
      decide
    have hread := Receives.read (n + 1) 1 (ih (Nat.le_of_succ_le hn)) hn hkept (unread_take hn hkept)
    have hreceived := hread.take_append
    have hnew : (((j.toList.take (n + 1)).drop n).take 1).length = 1 := by
      rw [List.length_take, List.length_drop, List.length_take_of_le hn, Nat.add_sub_cancel_left]
      rfl
    rw [hnew] at hread hreceived
    rw [List.take_zero, List.nil_append] at hreceived
    rw [← hreceived]
    exact hread

end Journal

/-! ## What worlds publish -/

section Worlds

variable {w w' w₁ w₂ w₃ : World σ} {entries entries' : List (Call × Nat)}

/-- Events were published, and they tell exactly how the variables have changed and which calls were
entered. -/
inductive World.Publishes (w w' : World σ) (entries : List (Call × Nat)) : Prop where
  | intro (events : List Event)
      (hjournal : w'.environment.journal.toList = w.environment.journal.toList ++ events)
      (hbindings : w'.environment.bindings = w.environment.bindings.replay events)
      (hentries : Event.entries events = entries)

theorem World.Publishes.of_eq (h : w'.environment = w.environment) : w.Publishes w' [] :=
  .intro [] (by rw [h, List.append_nil]) (by rw [h]; rfl) rfl

theorem World.Publishes.trans (h : w₁.Publishes w₂ entries) (h' : w₂.Publishes w₃ entries') :
    w₁.Publishes w₃ (entries ++ entries') := by
  obtain ⟨events, hjournal, hbindings, hentries⟩ := h
  obtain ⟨events', hjournal', hbindings', hentries'⟩ := h'
  refine .intro (events ++ events') ?_ ?_ ?_
  · rw [hjournal', hjournal, List.append_assoc]
  · rw [hbindings', hbindings, Bindings.replay_append]
  · rw [Event.entries_append, hentries, hentries']

/-- One event is published, and it tells what has changed. -/
theorem World.Publishes.push (event : Event)
    (hjournal : w'.environment.journal = w.environment.journal.push event)
    (hbindings : w'.environment.bindings = event.applyTo w.environment.bindings) :
    w.Publishes w' (Event.entries [event]) :=
  .intro [event] (by rw [hjournal, Array.toList_push]) hbindings rfl

theorem World.publishes_bind (w : World σ) (name : String) (value : Json) :
    w.Publishes (w.bind name value) [] :=
  .push (.bound name value) rfl rfl

/-- A variable that is removed is published if it was bound, and otherwise there is nothing to tell. -/
theorem World.publishes_unbind (w : World σ) (name : String) : w.Publishes (w.unbind name) [] := by
  unfold World.unbind Environment.unbind
  split
  · exact .push (.unbound name) rfl rfl
  · exact .of_eq rfl

theorem World.stable_publishes : World.Stable fun w w' : World σ => w.Publishes w' [] where
  refl _ := .of_eq rfl
  trans h h' := h.trans h'
  settle _ _ := .of_eq rfl
  note _ _ := .of_eq rfl
  bind := World.publishes_bind
  unbind := World.publishes_unbind
  disk _ _ := .of_eq rfl

/-- **A call publishes every change of a variable, wherever it ends.** -/
theorem Caller.run_publishes (c : Caller σ) (s : ResolvedScript) (w : World σ) :
    w.Publishes (c.run s w).2 [] :=
  (quiet_of_stable World.stable_publishes c).run (fun _ _ => .of_eq rfl) s w

end Worlds

namespace Suite

variable {s t u : Suite σ} {node : Json}

/-! ## What suites publish -/

/-- All that has changed in the variables and the history was published. The index of a call is its
place in the history. -/
inductive Publishes (s t : Suite σ) : Prop where
  | intro (calls : List Call) (hhistory : t.history = s.history ++ calls)
      (hworld : s.world.Publishes t.world (calls.zipIdx s.history.length))

theorem Publishes.of_world (hworld : s.world.Publishes t.world [])
    (hhistory : t.history = s.history) : s.Publishes t :=
  .intro [] (by rw [hhistory, List.append_nil]) hworld

theorem Publishes.trans (h : s.Publishes t) (h' : t.Publishes u) : s.Publishes u := by
  obtain ⟨calls, hhistory, hworld⟩ := h
  obtain ⟨calls', hhistory', hworld'⟩ := h'
  refine .intro (calls ++ calls') (by rw [hhistory', hhistory, List.append_assoc]) ?_
  rw [List.zipIdx_append]
  rw [hhistory, List.length_append] at hworld'
  exact hworld.trans hworld'

theorem publishes_report (s : Suite σ) (call : Call) : s.Publishes (s.report call) :=
  .intro [call.reported] rfl
    (.push (.completed s.history.length call.reported) rfl rfl)

theorem publishes_entering (s : Suite σ) (script : Script) (resolved : ResolvedScript) :
    s.Publishes (s.entering script resolved) := by
  have hnoting : s.world.Publishes (s.noting script).world [] := .of_eq rfl
  have hrun := s.caller.run_publishes resolved (s.noting script).world
  unfold entering enter
  refine Publishes.trans ?_ (publishes_report _ _)
  -- up to the entry, only the world has changed and the script was kept
  exact .of_world (hnoting.trans hrun) rfl

/-- **Taking a node publishes all that it changes.** -/
theorem Taken.publishes {r : Suite σ × Bool} (h : s.Taken node r) : s.Publishes r.1 := by
  cases h with
  | malformed _ => exact s.publishes_report _
  | unresolved _ _ =>
    have hnoting : ∀ script, s.Publishes (s.noting script) := fun _ => .of_world (.of_eq rfl) rfl
    exact (hnoting _).trans (publishes_report _ _)
  | registered _ _ _ => exact .of_world (.of_eq rfl) rfl
  | wentOn _ _ _ _ => exact s.publishes_entering _ _
  | endedEarly _ _ _ _ => exact (s.publishes_entering _ _).trans (.of_world (.of_eq rfl) rfl)

/-- So does running a document. -/
theorem publishes_execute (s : Suite σ) (document : Json) : s.Publishes (s.execute document) :=
  execute_induction (P := s.Publishes)
    (fun _ h => h.trans (.of_world (.of_eq rfl) rfl))
    (fun t node h => h.trans (t.take_taken node).publishes)
    (fun _ h => h.trans (.of_world (.push (.cancelled) rfl rfl) rfl))
    document (.of_world (.of_eq rfl) rfl)

/-! ## Any operations -/

/-- Whatever is done with a suite publishes all that it changes, but for a reset, which forgets the
history. -/
theorem publishes_operate (s : Suite σ) {op : Operation σ} (hop : op ≠ .reset) :
    s.Publishes (s.operate op) := by
  cases op with
  | execute document => exact s.publishes_execute document
  | bind name value => exact .of_world (s.world.publishes_bind name value) rfl
  | unbind name => exact .of_world (s.world.publishes_unbind name) rfl
  | cancel => exact .of_world (.of_eq rfl) rfl
  | reset => exact absurd rfl hop
  | configure settings =>
    obtain ⟨baseUrl, notices, hconfigured⟩ := s.configure_eq settings
    rw [operate, hconfigured]
    exact .of_world (.of_eq rfl) rfl
  | equip registry services => exact .of_world (.of_eq rfl) rfl
  | outside disk host => exact .of_world (.of_eq rfl) rfl

/-- A suite in use, and how many events it had published when it was last reset. -/
structure Session (σ : Type) where
  suite : Suite σ
  mark : Nat

namespace Session

/-- The events that the suite has published. -/
def journal (x : Session σ) : Journal :=
  x.suite.world.environment.journal

/-- Does an operation. -/
def operate (x : Session σ) (op : Operation σ) : Session σ :=
  match op with
  | .reset => ⟨x.suite.reset, x.journal.size⟩
  | op => ⟨x.suite.operate op, x.mark⟩

/-- Does operations one after the other. -/
def operateAll (x : Session σ) (ops : List (Operation σ)) : Session σ :=
  ops.foldl operate x

/-- Nothing has been done yet. -/
inductive IsNew : Session σ → Prop where
  | intro (registry : Registry σ) (services : Services σ) (disk : Disk) (host : σ)
      (settings : Settings) : IsNew ⟨create registry services disk host settings, 0⟩

/-- The journal mirrors the suite: its variables, and its history since the last reset. -/
structure Mirrored (x : Session σ) : Prop where
  bindings : Bindings.replay [] x.journal.toList = x.suite.bindings
  marked : x.mark ≤ x.journal.toList.length
  history : Event.entries (x.journal.toList.drop x.mark) = x.suite.history.zipIdx

variable {x : Session σ}

theorem IsNew.journal_eq (h : x.IsNew) : x.journal = #[] := by
  cases h with
  | intro registry services disk host settings =>
    obtain ⟨baseUrl, notices, hcreated⟩ := create_eq registry services disk host settings
    rw [hcreated]
    rfl

theorem IsNew.mirrored (h : x.IsNew) : x.Mirrored := by
  cases h with
  | intro registry services disk host settings =>
    obtain ⟨baseUrl, notices, hcreated⟩ := create_eq registry services disk host settings
    rw [hcreated]
    exact ⟨rfl, Nat.zero_le _, rfl⟩

/-- What is published keeps the mirror exact. -/
theorem Mirrored.of_publishes (h : x.Mirrored) (hpublishes : x.suite.Publishes t) :
    Mirrored ⟨t, x.mark⟩ := by
  obtain ⟨calls, hhistory, events, hjournal, hbindings, hentries⟩ := hpublishes
  have hnew : Session.journal ⟨t, x.mark⟩ = t.world.environment.journal := rfl
  have hold : x.suite.world.environment.journal = x.journal := rfl
  rw [hold] at hjournal
  refine ⟨?_, ?_, ?_⟩
  · rw [hnew, hjournal, Bindings.replay_append, h.bindings]
    exact hbindings.symm
  · rw [hnew, hjournal, List.length_append]
    exact Nat.le_add_right_of_le h.marked
  · rw [hnew, hjournal, List.drop_append_of_le_length h.marked, Event.entries_append, h.history,
      hentries]
    show _ = t.history.zipIdx
    rw [hhistory, List.zipIdx_append, Nat.zero_add]

/-- A reset publishes nothing. From here on the calls are counted from zero again. -/
theorem Mirrored.reset (h : x.Mirrored) : Mirrored ⟨x.suite.reset, x.journal.size⟩ := by
  refine ⟨h.bindings, Nat.le_refl _, ?_⟩
  show Event.entries (x.journal.toList.drop x.journal.toList.length) = _
  rw [List.drop_length]
  rfl

theorem Mirrored.operate (h : x.Mirrored) (op : Operation σ) : (x.operate op).Mirrored := by
  cases op with
  | reset => exact h.reset
  | _ => exact h.of_publishes (x.suite.publishes_operate nofun)

/-- Induction on the operations; the mirror is exact after each. -/
theorem Mirrored.operateAll (h : x.Mirrored) (ops : List (Operation σ)) :
    (x.operateAll ops).Mirrored := by
  induction ops generalizing x with
  | nil => exact h
  | cons op rest ih => exact ih (h.operate op)

/-- **The events of a suite replay to its state.** Whatever is done with a new suite, a subscriber from
the beginning that keeps up can follow it: the changes of variables that it receives, made in a copy,
give the variables in their order, and the calls that it receives since the last reset are those of the
history, with their places in it. -/
theorem replay_received (hnew : x.IsNew) (ops : List (Operation σ)) {events : List Event}
    (hreceives : (x.operateAll ops).journal.Receives x.journal.size
      (x.operateAll ops).journal.size events) :
    Bindings.replay [] events = (x.operateAll ops).suite.bindings
    ∧ Event.entries (events.drop (x.operateAll ops).mark) =
        (x.operateAll ops).suite.history.zipIdx := by
  have hmirrored := hnew.mirrored.operateAll ops
  rw [hnew.journal_eq] at hreceives
  have hall : events = (x.operateAll ops).journal.toList := hreceives.eq_toList
  rw [hall]
  exact ⟨hmirrored.bindings, hmirrored.history⟩

/-- A new suite over the transport in memory. -/
def untouched : Session Replay :=
  ⟨replaySuite, 0⟩

/-- Variables are bound by the host and by a script, bound again and removed, and one that is not there is
removed too. Of two runs the first is forgotten. -/
def rebinding : List (Operation Replay) :=
  let login : Json :=
    .object [("name", .string "login"), ("env", .object [("token", .string "t"), ("id", .string "1")]),
      ("GET", .string "/login")]
  [.bind "id" (.string "0"), .unbind "absent", .execute login, .reset, .execute login, .unbind "id",
    .bind "id" (.string "2")]

/-- What was bound again comes last, and the call of the second run has the index 0. -/
theorem replay_received_rebinding :
    untouched.IsNew
    ∧ (untouched.operateAll rebinding).journal.Receives untouched.journal.size
        (untouched.operateAll rebinding).journal.size (untouched.operateAll rebinding).journal.toList
    ∧ Bindings.replay [] (untouched.operateAll rebinding).journal.toList =
        (untouched.operateAll rebinding).suite.bindings
    ∧ (untouched.operateAll rebinding).suite.bindings.keys = ["token", "id"]
    ∧ Event.entries ((untouched.operateAll rebinding).journal.toList.drop
        (untouched.operateAll rebinding).mark) =
          (untouched.operateAll rebinding).suite.history.zipIdx
    ∧ (untouched.operateAll rebinding).mark = 4
    ∧ (untouched.operateAll rebinding).suite.history.map Call.script = ["login"] := by
  have hnew : untouched.IsNew := .intro _ _ _ _ _
  have hreceives := (untouched.operateAll rebinding).journal.receives_take (Nat.le_refl _)
  rw [← Array.length_toList, List.take_length] at hreceives
  obtain ⟨hbindings, hhistory⟩ := replay_received hnew rebinding hreceives
  exact ⟨hnew, hreceives, hbindings, by decide +kernel, hhistory, by decide +kernel,
    by decide +kernel⟩

end Session

end Suite

end RestSuite
