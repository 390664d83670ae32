import RestSuite.Proofs.Call.Stopping

/-!
# Extraction goes as far as it can

The extractors of a script are tried one after the other. What one of them binds before it fails
stays bound and is seen by those behind it. A plain failure is noted and passed over, unless the
rule is required; that and every other error is the end.

* **`Attempt`** — what came of a rule that was tried; `Attempt.Ends` says which ones are the end.
* **`Caller.Tries`** — attempts one after the other, each in the world that the last one left.
* **`Caller.takeAll_bestEffort`** — what is tried, what is kept of it, and what comes of the whole.
* **`Caller.extraction_bestEffort`** — the same, with what a call says of it.
-/

namespace RestSuite

/-- A rule that was tried: the bindings that its extractor saw, the changes that it asked for, and
how it ended. -/
structure Attempt where
  rule : Rule
  seen : Bindings
  edits : List Edit
  result : Except RuleError Unit

namespace Attempt

/-- The message of an attempt that failed without being the end. -/
def message? (a : Attempt) : Option String :=
  match a.result with
  | .error (.failed message) => if a.rule.required then none else some message
  | _ => none

/-- What a call keeps of an attempt. -/
def entry? (a : Attempt) : Option String :=
  a.message?.map fun message => s!"{a.rule.key}: {message}"

/-- What the operator is told of an attempt. -/
def notices (a : Attempt) (script : String) : List Notice :=
  (a.message?.map fun message => Notice.extractorFailed a.rule.key script message).toList

/-- The attempt ends the extraction. -/
inductive Ends (a : Attempt) : CallError → Prop where
  /-- A required rule failed. -/
  | required {message : String} (hresult : a.result = .error (.failed message))
      (hrequired : a.rule.required = true) : Ends a (.extraction a.rule.key message)
  | binding {e : BindingError} (hresult : a.result = .error (.binding e)) : Ends a (.binding e)
  | configuration {e : ConfigurationError} (hresult : a.result = .error (.configuration e)) :
      Ends a (.configuration e)
  | evaluation {e : EvaluationError} (hresult : a.result = .error (.evaluation e)) :
      Ends a (.evaluation e)

/-- The attempt does not end the extraction. -/
def GoesOn (a : Attempt) : Prop :=
  ∀ e, ¬ a.Ends e

variable {a : Attempt} {raised : RuleError}

/-- It is the end exactly if its failure is one that ends the call. -/
theorem ends_iff {e : CallError} :
    a.Ends e ↔ ∃ raised, a.result = .error raised ∧ Caller.failure a.rule raised = .error e := by
  constructor
  · rintro (⟨hresult, hrequired⟩ | hresult | hresult | hresult)
    · exact ⟨_, hresult, if_pos hrequired⟩
    · exact ⟨_, hresult, rfl⟩
    · exact ⟨_, hresult, rfl⟩
    · exact ⟨_, hresult, rfl⟩
  · rintro ⟨raised, hresult, hfailure⟩
    cases raised with
    | failed plain =>
      unfold Caller.failure at hfailure
      dsimp only at hfailure
      by_cases hrequired : a.rule.required = true
      · rw [if_pos hrequired] at hfailure
        cases hfailure
        exact .required hresult hrequired
      · rw [if_neg hrequired] at hfailure
        cases hfailure
    | binding x => cases hfailure; exact .binding hresult
    | configuration x => cases hfailure; exact .configuration hresult
    | evaluation x => cases hfailure; exact .evaluation hresult

/-- Its message is kept exactly if its failure is one that is only noted. -/
theorem message?_of_failure (h : a.result = .error raised) :
    a.message? = (Caller.failure a.rule raised).toOption := by
  unfold message?
  rw [h]
  cases raised with
  | failed plain =>
    unfold Caller.failure
    dsimp only
    by_cases hrequired : a.rule.required = true
    · rw [if_pos hrequired, if_pos hrequired]
      rfl
    · rw [if_neg hrequired, if_neg hrequired]
      rfl
  | _ => rfl

theorem goesOn_of_ok (h : a.result = .ok ()) : a.GoesOn ∧ a.message? = none := by
  constructor
  · intro e hends
    obtain ⟨raised, hresult, -⟩ := ends_iff.1 hends
    cases h.symm.trans hresult
  · unfold message?
    rw [h]

theorem goesOn_of_failure {message : String} (h : a.result = .error raised)
    (hfailure : Caller.failure a.rule raised = .ok message) :
    a.GoesOn ∧ a.message? = some message := by
  constructor
  · intro e hends
    obtain ⟨raised', hresult, hend⟩ := ends_iff.1 hends
    cases h.symm.trans hresult
    cases hfailure.symm.trans hend
  · rw [message?_of_failure h, hfailure]
    rfl

theorem ends_of_failure {e : CallError} (h : a.result = .error raised)
    (hfailure : Caller.failure a.rule raised = .error e) : a.Ends e ∧ a.message? = none := by
  refine ⟨ends_iff.2 ⟨raised, h, hfailure⟩, ?_⟩
  rw [message?_of_failure h, hfailure]
  rfl

theorem entry?_eq_none (h : a.message? = none) : a.entry? = none := by
  unfold entry?
  rw [h]
  rfl

theorem notices_eq_nil (h : a.message? = none) (script : String) : a.notices script = [] := by
  unfold notices
  rw [h]
  rfl

/-- What attempts make of the variables. -/
def applyAll (attempts : List Attempt) (e : Environment) : Environment :=
  (attempts.flatMap Attempt.edits).foldl Environment.apply e

theorem applyAll_cons (a : Attempt) (more : List Attempt) (e : Environment) :
    applyAll (a :: more) e = applyAll more (a.edits.foldl Environment.apply e) := by
  unfold applyAll
  rw [List.flatMap_cons, List.foldl_append]

end Attempt

theorem World.noteAll_nil {σ : Type} (w : World σ) : w.noteAll [] = w := by
  unfold World.noteAll
  rw [List.append_nil]

namespace Caller

variable {σ : Type} {c : Caller σ} {s : ResolvedScript} {request : Option Request}
  {response : Option Response} {w w₁ w' : World σ} {a : Attempt} {attempts : List Attempt}
  {rules : List Rule}

/-! ## Attempts one after the other -/

/-- A rule is tried in a world and leaves another. The changes that its extractor asks for are made,
however it ends; a rule without an extractor changes nothing. -/
inductive Attempts (c : Caller σ) (s : ResolvedScript) (request : Option Request)
    (response : Option Response) (w : World σ) : Attempt → World σ → Prop where
  | ran {rule : Rule} {extractor : Extractor σ} {reply : Reply σ Extraction}
      (hkey : c.registry.extractor rule.key = .ok extractor)
      (hreply : extractor rule (c.scene s request response w) c.services.evaluator w.host = reply) :
      Attempts c s request response w
        ⟨rule, (c.scene s request response w).scope.bindings, reply.value.edits, reply.value.result⟩
        ((w.settle reply).apply reply.value)
  | unknown {rule : Rule} {e : ConfigurationError}
      (hkey : c.registry.extractor rule.key = .error e) :
      Attempts c s request response w
        ⟨rule, (c.scene s request response w).scope.bindings, [], .error (.configuration e)⟩ w

/-- Rules are tried one after the other, each in the world that those before it have left. -/
inductive Tries (c : Caller σ) (s : ResolvedScript) (request : Option Request)
    (response : Option Response) : World σ → List Attempt → World σ → Prop where
  | nil (w : World σ) : Tries c s request response w [] w
  | cons {w w₁ w₂ : World σ} {a : Attempt} {more : List Attempt}
      (hattempt : c.Attempts s request response w a w₁)
      (hrest : Tries c s request response (w₁.noteAll (a.notices s.name)) more w₂) :
      Tries c s request response w (a :: more) w₂

theorem exists_attempt (c : Caller σ) (s : ResolvedScript) (request : Option Request)
    (response : Option Response) (rule : Rule) (w : World σ) :
    ∃ a, a.rule = rule ∧ a.result = (c.takeOne rule (c.scene s request response w) w).1
      ∧ c.Attempts s request response w a (c.takeOne rule (c.scene s request response w) w).2 := by
  unfold takeOne
  cases hkey : c.registry.extractor rule.key with
  | error e => exact ⟨_, rfl, rfl, .unknown hkey⟩
  | ok extractor => exact ⟨_, rfl, rfl, .ran hkey rfl⟩

theorem Attempts.environment (h : c.Attempts s request response w a w') :
    a.seen = w.environment.bindings
    ∧ w'.environment = a.edits.foldl Environment.apply w.environment := by
  cases h <;> exact ⟨rfl, rfl⟩

/-- **Every extractor sees what those before it have bound**, those that failed among them.
Induction on the attempts before it. -/
theorem Tries.seen (h : c.Tries s request response w attempts w') {before after : List Attempt}
    (hattempts : attempts = before ++ a :: after) :
    a.seen = (Attempt.applyAll before w.environment).bindings := by
  induction before generalizing w attempts with
  | nil =>
    subst hattempts
    cases h with
    | cons hattempt _ => exact hattempt.environment.1
  | cons first before ih =>
    subst hattempts
    cases h with
    | cons hattempt hrest =>
      obtain ⟨-, hafter⟩ := hattempt.environment
      have hseen := ih hrest rfl
      rw [Attempt.applyAll_cons, ← hafter]
      exact hseen

/-! ## The whole of it -/

/-- What comes of an extraction: all rules were tried and none was the end, or the last one that was
tried is the end, and the rules behind it were not tried. -/
inductive Concludes (rules : List Rule) (attempts : List Attempt) :
    Except CallError Unit → Prop where
  | completed (hrules : attempts.map Attempt.rule = rules) (hgo : ∀ a ∈ attempts, a.GoesOn) :
      Concludes rules attempts (.ok ())
  | ended {before : List Attempt} {last : Attempt} {after : List Rule} {e : CallError}
      (hattempts : attempts = before ++ [last])
      (hrules : rules = before.map Attempt.rule ++ last.rule :: after)
      (hgo : ∀ a ∈ before, a.GoesOn) (hends : last.Ends e) :
      Concludes rules attempts (.error e)

theorem Concludes.cons {result : Except CallError Unit} (h : Concludes rules attempts result)
    (hgo : a.GoesOn) : Concludes (a.rule :: rules) (a :: attempts) result := by
  cases h with
  | completed hrules hall =>
    exact .completed (congrArg (a.rule :: ·) hrules) (List.forall_mem_cons.2 ⟨hgo, hall⟩)
  | @ended before last after e hattempts hrules hall hends =>
    exact @Concludes.ended _ _ (a :: before) last after e (congrArg (a :: ·) hattempts)
      (congrArg (a.rule :: ·) hrules) (List.forall_mem_cons.2 ⟨hgo, hall⟩) hends

/-- What holds of the extractors of a list of rules, from a world on and behind messages that were
kept before: which attempts there were, and what is left of them. -/
structure BestEffort (c : Caller σ) (s : ResolvedScript) (request : Option Request)
    (response : Option Response) (rules : List Rule) (messages : List String) (w : World σ)
    (attempts : List Attempt) : Prop where
  /-- Rules are tried in their order, and the world is left as the last of them leaves it. -/
  tries : c.Tries s request response w attempts
    (c.takeAll s request response rules messages w).2.2
  /-- It is the end where an attempt says so, and nowhere else. -/
  concludes : Concludes rules attempts (c.takeAll s request response rules messages w).1
  /-- One message is kept for every plain failure of a rule that is not required. -/
  kept : (c.takeAll s request response rules messages w).2.1 =
    messages ++ attempts.filterMap Attempt.entry?
  /-- An extractor sees what those before it have bound, however they ended. -/
  seen : ∀ before a after, attempts = before ++ a :: after →
    a.seen = (Attempt.applyAll before w.environment).bindings

/-- **Extractors are tried as far as it goes.** Induction on the rules; the world and the messages
change with every rule. -/
theorem takeAll_bestEffort (c : Caller σ) (s : ResolvedScript) (request : Option Request)
    (response : Option Response) (rules : List Rule) (messages : List String) (w : World σ) :
    ∃ attempts, c.BestEffort s request response rules messages w attempts := by
  suffices ∃ attempts,
      c.Tries s request response w attempts (c.takeAll s request response rules messages w).2.2
      ∧ Concludes rules attempts (c.takeAll s request response rules messages w).1
      ∧ (c.takeAll s request response rules messages w).2.1 =
          messages ++ attempts.filterMap Attempt.entry? by
    obtain ⟨attempts, htries, hconcludes, hkept⟩ := this
    exact ⟨attempts, htries, hconcludes, hkept, fun _ _ _ hattempts => htries.seen hattempts⟩
  induction rules generalizing messages w with
  | nil => exact ⟨[], .nil w, .completed rfl nofun, (List.append_nil _).symm⟩
  | cons rule rest ih =>
    obtain ⟨a, rfl, hresult, hattempt⟩ := c.exists_attempt s request response rule w
    unfold takeAll
    rcases htaken : c.takeOne a.rule (c.scene s request response w) w with ⟨result, w₁⟩
    rw [htaken] at hresult hattempt
    cases result with
    | ok _ =>
      obtain ⟨hgo, hmessage⟩ := Attempt.goesOn_of_ok hresult
      obtain ⟨attempts, htries, hconcludes, hkept⟩ := ih messages w₁
      refine ⟨a :: attempts, .cons hattempt ?_, hconcludes.cons hgo, ?_⟩
      · rw [Attempt.notices_eq_nil hmessage, World.noteAll_nil]
        exact htries
      · rw [List.filterMap_cons_none (Attempt.entry?_eq_none hmessage)]
        exact hkept
    | error raised =>
      dsimp only
      cases hfailure : failure a.rule raised with
      | ok message =>
        -- a plain failure leaves a message and a notice, and the next rule comes
        obtain ⟨hgo, hmessage⟩ := Attempt.goesOn_of_failure hresult hfailure
        have hentry : a.entry? = some s!"{a.rule.key}: {message}" := by
          unfold Attempt.entry?
          rw [hmessage]
          rfl
        have hnotices : a.notices s.name = [.extractorFailed a.rule.key s.name message] := by
          unfold Attempt.notices
          rw [hmessage]
          rfl
        obtain ⟨attempts, htries, hconcludes, hkept⟩ :=
          ih (messages ++ [s!"{a.rule.key}: {message}"])
            (w₁.note (.extractorFailed a.rule.key s.name message))
        refine ⟨a :: attempts, .cons hattempt ?_, hconcludes.cons hgo, ?_⟩
        · rw [hnotices]
          exact htries
        · rw [List.filterMap_cons_some hentry]
          rw [List.append_assoc] at hkept
          exact hkept
      | error e =>
        obtain ⟨hends, hmessage⟩ := Attempt.ends_of_failure hresult hfailure
        have hended : Concludes (a.rule :: rest) [a] (.error e) :=
          @Concludes.ended _ _ [] a rest e rfl rfl nofun hends
        refine ⟨[a], .cons hattempt ?_, hended, ?_⟩
        · rw [Attempt.notices_eq_nil hmessage, World.noteAll_nil]
          exact .nil w₁
        · rw [List.filterMap_cons_none (Attempt.entry?_eq_none hmessage)]
          exact (List.append_nil messages).symm

/-! ## What a call says of it -/

/-- The record of a call that an extractor ended: the response is kept, and no assertion is run. -/
structure EndedByExtractor (s : ResolvedScript) (response : Response) (e : CallError)
    (call : Call) : Prop where
  response : call.response = some response
  state : call.state = .failed
  error : call.error = some e
  skipped : ∃ pre post, Records pre s.layer.preconditions ∧ Records post s.layer.assertions
    ∧ call.HasLedger (pre ++ post) ∧ AllAre .skipped post

variable {r : Call × World σ}

/-- The messages of its extractors are in the record of a call, whatever comes behind them. -/
theorem Ends.extracted {request : Request} {response : Response} {entries : List LedgerEntry}
    (h : c.Ends s w r) (hreceives : c.Receives s w request response entries w₁)
    (hgoing : (w₁.poll c.services).stopped = false) :
    r.1.extractionErrors = (c.takeAll s (some request) (some response) s.layer.extractors []
        (w₁.poll c.services)).2.1
    ∧ ∀ e, (c.takeAll s (some request) (some response) s.layer.extractors []
        (w₁.poll c.services)).1 = .error e → EndedByExtractor s response e r.1 := by
  obtain ⟨-, hresponse⟩ := h.received hreceives
  have hextracts : ∀ {request' : Request} {response' : Response} {entries' : List LedgerEntry}
      {messages : List String} {w₂ : World σ},
      c.Extracts s w request' response' entries' messages w₂ →
        messages = (c.takeAll s (some request) (some response) s.layer.extractors []
          (w₁.poll c.services)).2.1
        ∧ ∀ e, (c.takeAll s (some request) (some response) s.layer.extractors []
          (w₁.poll c.services)).1 = .error e → EndedByExtractor s response e r.1 := by
    rintro _ _ _ _ _ ⟨hreceives', -, htake⟩
    obtain ⟨rfl, rfl, -, rfl⟩ := hreceives.unique hreceives'
    rw [htake]
    exact ⟨rfl, nofun⟩
  -- there are six ways out before a response is there, and one with it that is taken at a stop
  cases h with
  | misconfigured => cases hresponse
  | stoppedAtStart => cases hresponse
  | unbuilt => cases hresponse
  | refused => cases hresponse
  | preconditionHalted => cases hresponse
  | stoppedBeforeSending => cases hresponse
  | unanswered => cases hresponse
  | stoppedOnReceipt hreceives' hstop =>
    obtain ⟨-, -, -, rfl⟩ := hreceives.unique hreceives'
    cases hgoing.symm.trans hstop
  | extractionHalted hreceives' _ htake =>
    obtain ⟨rfl, rfl, -, rfl⟩ := hreceives.unique hreceives'
    obtain ⟨_, _, hran⟩ := hreceives'.ran
    rw [htake]
    refine ⟨rfl, fun e he => ?_⟩
    cases he
    exact ⟨rfl, rfl, rfl, _, _, hran.records, records_skippedEntries _ _,
      Call.hasLedger_withLedger _ _, allAre_skippedEntries _ _⟩
  | stoppedBeforeAsserting hextracts' _ => exact hextracts hextracts'
  | assertionHalted hasserts _ =>
    obtain ⟨hextracts', -⟩ := hasserts
    exact hextracts hextracts'
  | asserted hasserts _ =>
    obtain ⟨hextracts', -⟩ := hasserts
    exact hextracts hextracts'

/-- The extractors of a call that has a response and was not stopped were run. -/
theorem Ends.receives {response : Response} (h : c.Ends s w r)
    (hresponse : r.1.response = some response) (hkept : r.1.cancelled = false) :
    ∃ request entries w₁, c.Receives s w request response entries w₁
      ∧ (w₁.poll c.services).stopped = false := by
  cases h with
  | extractionHalted hreceives hgoing _ =>
    cases hresponse
    exact ⟨_, _, _, hreceives, hgoing⟩
  | assertionHalted hasserts _ =>
    obtain ⟨⟨hreceives, hgoing, -⟩, -⟩ := hasserts
    cases hresponse
    exact ⟨_, _, _, hreceives, hgoing⟩
  | asserted hasserts _ =>
    obtain ⟨⟨hreceives, hgoing, -⟩, -⟩ := hasserts
    cases hresponse
    exact ⟨_, _, _, hreceives, hgoing⟩
  | stoppedOnReceipt => cases hkept
  | stoppedBeforeAsserting => cases hkept
  | _ => cases hresponse

/-- **Extraction goes as far as it can.** Whatever the extractors of a registry do, the rules are
tried in their order, each sees what those before it have bound, and the first one that is the end
is the last one that is tried. A call keeps one message for every plain failure of a rule that is
not required. If an extractor ends the call, the call has failed with its error, keeps the response
and has skipped all assertions. -/
theorem extraction_bestEffort (c : Caller σ) (s : ResolvedScript) :
    (∀ request response rules messages w,
      ∃ attempts, c.BestEffort s request response rules messages w attempts)
    ∧ ∀ w request response entries w₁, c.Receives s w request response entries w₁ →
        (w₁.poll c.services).stopped = false →
        (c.run s w).1.extractionErrors =
          (c.takeAll s (some request) (some response) s.layer.extractors []
            (w₁.poll c.services)).2.1
        ∧ ∀ e, (c.takeAll s (some request) (some response) s.layer.extractors []
            (w₁.poll c.services)).1 = .error e →
          EndedByExtractor s response e (c.run s w).1 :=
  ⟨c.takeAll_bestEffort s, fun w _ _ _ _ hreceives hgoing =>
    (c.run_ends s w).extracted hreceives hgoing⟩

/-- A script whose first extractor fails behind a variable that the second one needs, whose third
has to succeed and does not, and whose fourth never has its turn. -/
def persistent : ResolvedScript where
  name := "persist"
  chain := []
  line? := some (.get, "/")
  body := none
  layer := {
    headers := []
    env := []
    preconditions := []
    extractors := [
      ⟨.extraction, "headers", .object [("a", .string "x-a"), ("b", .string "x-b")], false,
        "persist"⟩,
      ⟨.extraction, "text", .string "\x7b@a@\x7d", false, "persist"⟩,
      ⟨.extraction, "headers", .object [("b", .string "x-b")], true, "persist"⟩,
      ⟨.extraction, "text", .string "late", false, "persist"⟩]
    assertions := [⟨.assertion, "status", .string "200", false, "persist"⟩] }

/-- A world in which a response with one of the two headers waits. -/
def waiting : World Replay :=
  World.start .empty ⟨[.ok ⟨200, "OK", [("X-A", "name")], "body".toUTF8⟩], []⟩

/-- One failure is noted and the other is the end. What was bound before the first one stays. -/
theorem extraction_bestEffort_persistent :
    (∃ request response entries w₁,
      Replay.caller.Receives persistent waiting request response entries w₁
      ∧ (w₁.poll Replay.caller.services).stopped = false
      ∧ (Replay.caller.run persistent waiting).1.extractionErrors =
          (Replay.caller.takeAll persistent (some request) (some response)
            persistent.layer.extractors [] (w₁.poll Replay.caller.services)).2.1)
    ∧ (Replay.caller.run persistent waiting).1.extractionErrors =
        ["headers: response has no 'x-b' header"]
    ∧ (Replay.caller.run persistent waiting).1.error =
        some (.extraction "headers" "response has no 'x-b' header")
    ∧ ((Replay.caller.run persistent waiting).2.environment.bindings.map
        fun b => (b.1, b.2.display)) = [("a", "name"), ("name", "body")] := by
  have hsome : (Replay.caller.run persistent waiting).1.response.isSome = true := by decide +kernel
  obtain ⟨response, hresponse⟩ := Option.isSome_iff_exists.1 hsome
  obtain ⟨request, entries, w₁, hreceives, hgoing⟩ :=
    (Replay.caller.run_ends persistent waiting).receives hresponse (by decide +kernel)
  obtain ⟨hmessages, -⟩ := (extraction_bestEffort Replay.caller persistent).2 waiting request
    response entries w₁ hreceives hgoing
  exact ⟨⟨request, response, entries, w₁, hreceives, hgoing, hmessages⟩, by decide +kernel,
    by decide +kernel, by decide +kernel⟩

end Caller

end RestSuite
