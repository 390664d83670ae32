import RestSuite.Call.Run

/-!
# Calls in two worlds

A call that is run in two worlds goes the same way in both if every single thing that it does in them
does. What has to be shown of two worlds for that is collected here, and followed once through all
stages of a call.

* **`Agree`** — the same answer, and worlds that are still related.
* **`Caller.Parallel`** — a relation between worlds that no step of the calls of a script can tell apart.
* **`Caller.Parallel.run`** — then no call of the script can.
* **`World.Alike`**, **`Caller.parallel_alike`** — worlds that differ in what was told of them, in their
  journals and notices, are such worlds for every script.
-/

namespace RestSuite

variable {σ α β : Type}

/-- Two answers that are the same, in worlds that are related. -/
inductive Agree (R : World σ → World σ → Prop) : α × World σ → α × World σ → Prop where
  | intro (a : α) {w w' : World σ} (h : R w w') : Agree R (a, w) (a, w')

/-- The same for answers in two parts. -/
inductive AgreeBoth (R : World σ → World σ → Prop) : α × β × World σ → α × β × World σ → Prop where
  | intro (a : α) (b : β) {w w' : World σ} (h : R w w') : AgreeBoth R (a, b, w) (a, b, w')

namespace Caller

variable {c : Caller σ} {s : ResolvedScript} {R : World σ → World σ → Prop} {w w' : World σ}

/-- What has to be the same in related worlds: every single step that a call of the script takes. -/
structure Parallel (c : Caller σ) (s : ResolvedScript) (R : World σ → World σ → Prop) : Prop where
  stopped : ∀ {w w'}, R w w' → w.stopped = w'.stopped
  poll : ∀ {w w'}, R w w' → R (w.poll c.services) (w'.poll c.services)
  note : ∀ {w w'} n, R w w' → R (w.note n) (w'.note n)
  expandValue : ∀ {w w'}, ∀ entry ∈ s.layer.env, R w w' →
    c.expandValue w entry.2 = c.expandValue w' entry.2
  bind : ∀ {w w'} name value, R w w' → R (w.bind name value) (w'.bind name value)
  prepare : ∀ {w w'}, R w w' → c.prepare s w = c.prepare s w'
  check : ∀ {w w'} stage, ∀ rule ∈ s.rules stage, ∀ request response, R w w' →
    Agree R (c.check stage rule (c.scene s request response w) w)
      (c.check stage rule (c.scene s request response w') w')
  takeOne : ∀ {w w'}, ∀ rule ∈ s.layer.extractors, ∀ request response, R w w' →
    Agree R (c.takeOne rule (c.scene s request response w) w)
      (c.takeOne rule (c.scene s request response w') w')
  send : ∀ {w w'} request, R w w' →
    (c.services.send request w.host).value = (c.services.send request w'.host).value
    ∧ R { w.settle (c.services.send request w.host) with sent := w.sent ++ [request] }
        { w'.settle (c.services.send request w'.host) with sent := w'.sent ++ [request] }

namespace Parallel

/-! ## Stages -/

/-- The variables of a script are bound in both worlds up to the same one. Induction on those that are
left. -/
theorem bindEnv (hR : c.Parallel s R) {env : List (String × Json)}
    (henv : ∀ entry ∈ env, entry ∈ s.layer.env) (h : R w w') :
    Agree R (c.bindEnv w env) (c.bindEnv w' env) := by
  induction env generalizing w w' with
  | nil => exact .intro _ h
  | cons entry rest ih =>
    obtain ⟨name, value⟩ := entry
    have hvalue := hR.expandValue (name, value) (henv _ List.mem_cons_self) h
    have hrest := fun entry hmem => henv entry (List.mem_cons_of_mem _ hmem)
    unfold Caller.bindEnv
    rw [← hvalue]
    cases c.expandValue w value with
    | error e => exact .intro _ h
    | ok expanded => exact ih hrest (hR.bind name expanded h)

theorem build (hR : c.Parallel s R) (h : R w w') : Agree R (c.build s w) (c.build s w') := by
  have hbound := hR.bindEnv (fun _ hmem => hmem) h
  unfold Caller.build
  generalize c.bindEnv w s.layer.env = r at hbound ⊢
  generalize c.bindEnv w' s.layer.env = r' at hbound ⊢
  cases hbound with
  | intro result hworlds =>
    cases result with
    | error e => exact .intro _ hworlds
    | ok _ =>
      dsimp only
      rw [hR.prepare hworlds]
      exact .intro _ hworlds

variable {stage : Stage} {request : Option Request} {response : Option Response} {rules : List Rule}

/-- Checks give the same verdicts in both worlds. Induction on the checks that are left. -/
theorem checkAll (hR : c.Parallel s R) (hrules : ∀ rule ∈ rules, rule ∈ s.rules stage) (call : Call)
    (h : R w w') :
    AgreeBoth R (c.checkAll stage s request response rules call w)
      (c.checkAll stage s request response rules call w') := by
  induction rules generalizing call w w' with
  | nil => exact .intro _ _ h
  | cons rule rest ih =>
    have hcheck := hR.check stage rule (hrules rule List.mem_cons_self) request response h
    have hrest := fun rule hmem => hrules rule (List.mem_cons_of_mem _ hmem)
    unfold Caller.checkAll
    generalize c.check stage rule (c.scene s request response w) w = r at hcheck ⊢
    generalize c.check stage rule (c.scene s request response w') w' = r' at hcheck ⊢
    cases hcheck with
    | intro result hworlds =>
      cases result with
      | passed => exact ih hrest _ hworlds
      | failed message =>
        -- a failed precondition ends its stage
        cases stage with
        | precondition => exact .intro _ _ hworlds
        | extraction => exact ih hrest _ hworlds
        | assertion => exact ih hrest _ hworlds
      | halted e => exact .intro _ _ hworlds

/-- So do extractors, and the messages of those that fail are the same. -/
theorem takeAll (hR : c.Parallel s R) (hrules : ∀ rule ∈ rules, rule ∈ s.layer.extractors)
    (messages : List String) (h : R w w') :
    AgreeBoth R (c.takeAll s request response rules messages w)
      (c.takeAll s request response rules messages w') := by
  induction rules generalizing messages w w' with
  | nil => exact .intro _ _ h
  | cons rule rest ih =>
    have htake := hR.takeOne rule (hrules rule List.mem_cons_self) request response h
    have hrest := fun rule hmem => hrules rule (List.mem_cons_of_mem _ hmem)
    unfold Caller.takeAll
    generalize c.takeOne rule (c.scene s request response w) w = r at htake ⊢
    generalize c.takeOne rule (c.scene s request response w') w' = r' at htake ⊢
    cases htake with
    | intro result hworlds =>
      cases result with
      | ok _ => exact ih hrest _ hworlds
      | error raised =>
        dsimp only
        cases Caller.failure rule raised with
        | error e => exact .intro _ _ hworlds
        | ok message => exact ih hrest _ (hR.note _ hworlds)

theorem fail (hR : c.Parallel s R) (call : Call) (e : CallError) (h : R w w') :
    Agree R (Caller.fail call e w) (Caller.fail call e w') :=
  .intro _ (hR.note _ h)

theorem assertStage (hR : c.Parallel s R) (request : Request) (response : Response) (call : Call)
    (h : R w w') :
    Agree R (c.assertStage s request response call w) (c.assertStage s request response call w') := by
  have hchecks : AgreeBoth R
      (c.checkAll .assertion s (some request) (some response) s.layer.assertions call w)
      (c.checkAll .assertion s (some request) (some response) s.layer.assertions call w') :=
    hR.checkAll (fun _ hmem => hmem) call h
  unfold Caller.assertStage
  generalize c.checkAll .assertion s (some request) (some response) s.layer.assertions call w = r
    at hchecks ⊢
  generalize c.checkAll .assertion s (some request) (some response) s.layer.assertions call w' = r'
    at hchecks ⊢
  cases hchecks with
  | intro fin call hworlds =>
    cases fin with
    | halted e => exact hR.fail call e hworlds
    | completed => exact .intro _ hworlds
    | refused => exact .intro _ hworlds

/-- Where a call looks at the flag, it finds the same in both worlds. -/
theorem look (hR : c.Parallel s R) (h : R w w') (call : Call) {r r' : Call × World σ}
    (hnext : R (w.poll c.services) (w'.poll c.services) → Agree R r r') :
    Agree R (if (w.poll c.services).stopped then (call, w.poll c.services) else r)
      (if (w'.poll c.services).stopped then (call, w'.poll c.services) else r') := by
  have hpoll := hR.poll h
  rw [← hR.stopped hpoll]
  split
  · exact .intro _ hpoll
  · exact hnext hpoll

theorem extractStage (hR : c.Parallel s R) (request : Request) (response : Response) (call : Call)
    (h : R w w') :
    Agree R (c.extractStage s request response call w)
      (c.extractStage s request response call w') := by
  have htake : AgreeBoth R
      (c.takeAll s (some request) (some response) s.layer.extractors [] w)
      (c.takeAll s (some request) (some response) s.layer.extractors [] w') :=
    hR.takeAll (fun _ hmem => hmem) [] h
  unfold Caller.extractStage
  generalize c.takeAll s (some request) (some response) s.layer.extractors [] w = r at htake ⊢
  generalize c.takeAll s (some request) (some response) s.layer.extractors [] w' = r' at htake ⊢
  cases htake with
  | intro result messages hworlds =>
    cases result with
    | error e => exact hR.fail _ e hworlds
    | ok _ => exact hR.look hworlds _ (hR.assertStage request response _)

theorem sendStage (hR : c.Parallel s R) (request : Request) (call : Call) (h : R w w') :
    Agree R (c.sendStage s request call w) (c.sendStage s request call w') := by
  obtain ⟨hreply, hworlds⟩ := hR.send request h
  unfold Caller.sendStage
  dsimp only
  rw [← hreply]
  cases (c.services.send request w.host).value with
  | error e => exact hR.fail _ _ hworlds
  | ok response => exact hR.look hworlds _ (hR.extractStage request response _)

theorem preconditionStage (hR : c.Parallel s R) (request : Request) (call : Call) (h : R w w') :
    Agree R (c.preconditionStage s request call w) (c.preconditionStage s request call w') := by
  have hchecks : AgreeBoth R
      (c.checkAll .precondition s (some request) none s.layer.preconditions call w)
      (c.checkAll .precondition s (some request) none s.layer.preconditions call w') :=
    hR.checkAll (fun _ hmem => hmem) call h
  unfold Caller.preconditionStage
  generalize c.checkAll .precondition s (some request) none s.layer.preconditions call w = r
    at hchecks ⊢
  generalize c.checkAll .precondition s (some request) none s.layer.preconditions call w' = r'
    at hchecks ⊢
  cases hchecks with
  | intro fin call hworlds =>
    cases fin with
    | refused => exact .intro _ hworlds
    | halted e => exact hR.fail _ e hworlds
    | completed => exact hR.look hworlds _ (hR.sendStage request _)

/-- **A call goes the same way in both worlds.** Its record is the same, and the worlds that it leaves
are related. -/
theorem run (hR : c.Parallel s R) (h : R w w') : Agree R (c.run s w) (c.run s w') := by
  unfold Caller.run
  dsimp only
  cases c.registry.validate s with
  | error e => exact hR.fail _ _ h
  | ok _ =>
    dsimp only
    refine hR.look h _ fun hpolled => ?_
    have hbuild := hR.build hpolled
    generalize c.build s (w.poll c.services) = r at hbuild ⊢
    generalize c.build s (w'.poll c.services) = r' at hbuild ⊢
    cases hbuild with
    | intro result hworlds =>
      cases result with
      | error e => exact hR.fail _ e hworlds
      | ok request => exact hR.preconditionStage request _ hworlds

end Parallel

end Caller

/-! ## Worlds that differ in what was told of them -/

/-- The world with another journal and other notices. -/
inductive World.Alike (w : World σ) : World σ → Prop where
  | intro (journal : Journal) (notices : List Notice) :
      Alike w { w with environment := ⟨w.environment.bindings, journal⟩, notices := notices }

/-- What an extractor changes does not depend on the journal. Induction on its changes. -/
theorem Environment.apply_journal (edits : List Edit) (e : Environment) (journal : Journal) :
    ∃ journal', edits.foldl Environment.apply ⟨e.bindings, journal⟩ =
      ⟨(edits.foldl Environment.apply e).bindings, journal'⟩ := by
  induction edits generalizing e journal with
  | nil => exact ⟨journal, rfl⟩
  | cons edit rest ih =>
    rw [List.foldl_cons, List.foldl_cons]
    cases edit with
    | bind name value => exact ih (e.bind name value) _
    | unbind name =>
      show ∃ journal', rest.foldl Environment.apply (Environment.unbind ⟨e.bindings, journal⟩ name) =
        ⟨(rest.foldl Environment.apply (e.unbind name)).bindings, journal'⟩
      unfold Environment.unbind
      dsimp only
      split
      · exact ih (Environment.publish ⟨OrderedMap.erase e.bindings name, e.journal⟩ (.unbound name)) _
      · exact ih e journal

/-- **No call sees the journal or the notices.** -/
theorem Caller.parallel_alike (c : Caller σ) (s : ResolvedScript) : c.Parallel s World.Alike where
  stopped h := by cases h; rfl
  poll h := by cases h; exact .intro _ _
  note n h := by cases h; exact .intro _ _
  expandValue entry _ h := by cases h; rfl
  bind name value h := by cases h; exact .intro _ _
  prepare h := by cases h; rfl
  check stage rule _ request response h := by
    cases h
    unfold Caller.check
    cases c.registry.assertion stage rule.key with
    | error e => exact .intro _ (.intro _ _)
    | ok assertion => exact .intro _ (.intro _ _)
  takeOne {w _} rule _ request response h := by
    cases h with
    | intro journal notices =>
      unfold Caller.takeOne
      cases c.registry.extractor rule.key with
      | error e => exact .intro _ (.intro _ _)
      | ok extractor =>
        let reply := extractor rule (c.scene s request response w) c.services.evaluator w.host
        obtain ⟨journal', happly⟩ :=
          Environment.apply_journal reply.value.edits w.environment journal
        refine .intro reply.value.result ?_
        show World.Alike _ { w.settle reply with
          environment := reply.value.edits.foldl Environment.apply ⟨w.environment.bindings, journal⟩
          disk := reply.value.disk
          notices := notices }
        rw [happly]
        exact .intro _ _
  send request h := by cases h; exact ⟨rfl, .intro _ _⟩

end RestSuite
