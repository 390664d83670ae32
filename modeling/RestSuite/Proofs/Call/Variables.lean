import RestSuite.Proofs.Behavior.Targets
import RestSuite.Proofs.Call.Exchange
import RestSuite.Proofs.Script.Inheritance

/-!
# What a call binds

Two of the stages of a call change variables: building binds those of the script, and extractors bind
what they take from the response. A call can end behind every single one of these bindings, and what
was bound by then stays bound.

* **`Environment.keys_bindAll`** — binding keeps the names that are there, in their order, and puts new
  names behind them.
* **`Caller.Binds`**, **`Caller.BindsUpTo`** — variables of a script and what they are bound to, as far
  as they expand.
* **`Extractor.standard_onlyBinds`** — no standard extractor takes a variable away.
* **`Caller.Writes`**, **`Caller.Ends.writes`** — what a call binds on each of the ways in which it can
  end.
* **`Caller.run_writes`** — the variables and the events that a call leaves.
-/

namespace RestSuite

variable {σ : Type}

/-! ## Sequences of bindings -/

namespace Environment

variable {e : Environment} {values more : List (String × Json)}

theorem bindAll_append : e.bindAll (values ++ more) = (e.bindAll values).bindAll more :=
  List.foldl_append

theorem removeAll_concat (names taken : List String) (name : String) :
    names.removeAll (taken ++ [name]) =
      (names.removeAll taken).filter fun other => !other == name := by
  unfold List.removeAll
  rw [List.filter_filter]
  refine List.filter_congr fun other _ => ?_
  rw [Bool.eq_iff_iff]
  simp [and_comm]

/-- **Names that are bound keep their places, and new names come behind them**, in the order in which
they are bound for the first time. Induction on the bindings. -/
theorem keys_bindAll (e : Environment) (values : List (String × Json)) :
    OrderedMap.keys (e.bindAll values).bindings =
      OrderedMap.keys e.bindings ++
        ((OrderedMap.keys values).removeAll (OrderedMap.keys e.bindings)).eraseDups := by
  induction values generalizing e with
  | nil => exact (List.append_nil _).symm
  | cons value rest ih =>
    obtain ⟨name, value⟩ := value
    have hkeys : OrderedMap.keys (e.bind name value).bindings =
        if name ∈ OrderedMap.keys e.bindings then OrderedMap.keys e.bindings
        else OrderedMap.keys e.bindings ++ [name] := OrderedMap.keys_put _ _ _
    show OrderedMap.keys ((e.bind name value).bindAll rest).bindings =
      OrderedMap.keys e.bindings ++
        ((name :: OrderedMap.keys rest).removeAll (OrderedMap.keys e.bindings)).eraseDups
    rw [ih, hkeys, List.cons_removeAll]
    by_cases hbound : name ∈ OrderedMap.keys e.bindings
    · have hcontains : ¬ (OrderedMap.keys e.bindings).contains name = false := by simpa using hbound
      rw [if_pos hbound, if_neg hcontains]
    · have hcontains : (OrderedMap.keys e.bindings).contains name = false := by simpa using hbound
      rw [if_neg hbound, if_pos hcontains, removeAll_concat, List.eraseDups_cons, List.append_assoc]
      rfl

/-- Binding leaves all other names alone. Induction on the bindings. -/
theorem get?_bindAll (e : Environment) {values : List (String × Json)} {name : String}
    (h : name ∉ OrderedMap.keys values) :
    OrderedMap.get? (e.bindAll values).bindings name = OrderedMap.get? e.bindings name := by
  induction values generalizing e with
  | nil => rfl
  | cons value rest ih =>
    obtain ⟨bound, value⟩ := value
    obtain ⟨hne, hrest⟩ := not_or.1 (mt List.mem_cons.2 h)
    have hput : OrderedMap.get? (e.bind bound value).bindings name =
        OrderedMap.get? e.bindings name := by
      unfold bind publish
      rw [OrderedMap.get?_put, if_neg (Ne.symm hne)]
    have hbound := ih (e.bind bound value) hrest
    exact hbound.trans hput

end Environment

/-- Binds variables, one after the other. -/
def World.bindAll (w : World σ) (values : List (String × Json)) : World σ :=
  { w with environment := w.environment.bindAll values }

namespace Caller

variable {c : Caller σ} {s : ResolvedScript} {w w' : World σ} {request : Request}

/-! ## The variables of a script -/

/-- Variables are bound one after the other, from a world on: a text to what it expands to under all
that is bound by then, any other value to itself. -/
inductive Binds (c : Caller σ) :
    World σ → List (String × Json) → List (String × Json) → Prop where
  | nil (w : World σ) : Binds c w [] []
  | text {w : World σ} {name text expanded : String} {env values : List (String × Json)}
      (hexpand : c.expand w text = .ok expanded)
      (hrest : Binds c (w.bind name (.string expanded)) env values) :
      Binds c w ((name, .string text) :: env) ((name, .string expanded) :: values)
  | verbatim {w : World σ} {name : String} {value : Json} {env values : List (String × Json)}
      (hvalue : ∀ text, value ≠ .string text) (hrest : Binds c (w.bind name value) env values) :
      Binds c w ((name, value) :: env) ((name, value) :: values)

/-- All variables of a section are bound, or those before the first that does not expand. -/
inductive BindsUpTo (c : Caller σ) (w : World σ) (env values : List (String × Json)) :
    Except CallError Unit → Prop where
  | whole (h : c.Binds w env values) : BindsUpTo c w env values (.ok ())
  | upTo {before after : List (String × Json)} {name : String} {value : Json} {e : CallError}
      (h : c.Binds w before values) (henv : env = before ++ (name, value) :: after)
      (hfails : c.expandValue (w.bindAll values) value = .error e) :
      BindsUpTo c w env values (.error e)

theorem Binds.cons {name : String} {value expanded : Json} {env values : List (String × Json)}
    (hvalue : c.expandValue w value = .ok expanded)
    (hrest : c.Binds (w.bind name expanded) env values) :
    c.Binds w ((name, value) :: env) ((name, expanded) :: values) := by
  cases value with
  | string text =>
    have hexpanded : (c.expand w text).map .string = .ok expanded := hvalue
    cases hexpand : c.expand w text with
    | error e =>
      rw [hexpand] at hexpanded
      cases hexpanded
    | ok result =>
      rw [hexpand] at hexpanded
      cases hexpanded
      exact .text hexpand hrest
  | _ =>
    cases hvalue
    exact .verbatim nofun hrest

/-- **The variables of a script are bound as far as they expand.** Induction on the section. -/
theorem bindEnv_bindsUpTo (c : Caller σ) (w : World σ) (env : List (String × Json)) :
    ∃ values, c.BindsUpTo w env values (c.bindEnv w env).1
      ∧ (c.bindEnv w env).2 = w.bindAll values := by
  induction env generalizing w with
  | nil => exact ⟨[], .whole (.nil w), rfl⟩
  | cons entry rest ih =>
    obtain ⟨name, value⟩ := entry
    unfold bindEnv
    cases hvalue : c.expandValue w value with
    | error e => exact ⟨[], .upTo (.nil w) rfl hvalue, rfl⟩
    | ok expanded =>
      obtain ⟨values, hbinds, hworld⟩ := ih (w.bind name expanded)
      refine ⟨(name, expanded) :: values, ?_, hworld⟩
      dsimp only
      generalize (c.bindEnv (w.bind name expanded) rest).1 = result at hbinds ⊢
      cases hbinds with
      | whole h => exact .whole (.cons hvalue h)
      | upTo h henv hfails => exact .upTo (.cons hvalue h) (congrArg _ henv) hfails

/-- A request is built in the world that the variables of the script leave. -/
theorem Builds.prepares {built : World σ} (h : c.Builds s w request built) :
    c.bindEnv (w.poll c.services) s.layer.env = (.ok (), built)
      ∧ c.prepare s built = .ok request := by
  obtain ⟨-, -, hbuild⟩ := h
  unfold build at hbuild
  split at hbuild
  · cases hbuild
  · next heq =>
    obtain ⟨hprepare, rfl⟩ := Prod.mk.inj hbuild
    exact ⟨heq, hprepare⟩

theorem Builds.binds {built : World σ} (h : c.Builds s w request built) :
    ∃ own, c.Binds (w.poll c.services) s.layer.env own
      ∧ built = (w.poll c.services).bindAll own := by
  obtain ⟨own, hbinds, hworld⟩ := c.bindEnv_bindsUpTo (w.poll c.services) s.layer.env
  rw [h.prepares.1] at hbinds hworld
  cases hbinds with
  | whole hbinds => exact ⟨own, hbinds, hworld⟩

theorem bindsUpTo_of_unbuilt {e : CallError} {left : World σ}
    (h : c.build s w = (.error e, left)) :
    ∃ own result, c.BindsUpTo w s.layer.env own result ∧ left = w.bindAll own := by
  obtain ⟨own, hbinds, hworld⟩ := c.bindEnv_bindsUpTo w s.layer.env
  refine ⟨own, _, hbinds, ?_⟩
  rw [← hworld]
  unfold build at h
  split at h
  · -- a variable does not expand
    next heq =>
    cases h
    rw [heq]
  · -- all variables are bound, and another part of the request does not expand
    next heq =>
    obtain ⟨-, rfl⟩ := Prod.mk.inj h
    rw [heq]

/-! ## Checks -/

/-- No check changes a variable, whatever its behavior does. -/
theorem check_environment (c : Caller σ) (stage : Stage) (rule : Rule) (scene : Scene)
    (w : World σ) : (c.check stage rule scene w).2.environment = w.environment := by
  unfold check
  split <;> rfl

section Stages

variable {stage : Stage} {sent : Option Request} {response : Option Response}
  {rules : List Rule} {entries : List LedgerEntry}

theorem environment_of_check {rule : Rule} {scene : Scene} {result : CheckResult}
    (h : c.check stage rule scene w = (result, w')) : w'.environment = w.environment := by
  have hcheck := c.check_environment stage rule scene w
  rw [h] at hcheck
  exact hcheck

theorem Ran.environment (h : c.Ran stage s sent response w rules entries w') :
    w'.environment = w.environment := by
  induction h with
  | nil => rfl
  | passed hcheck _ ih => exact ih.trans (environment_of_check hcheck)
  | failed _ hcheck _ ih => exact ih.trans (environment_of_check hcheck)

theorem Checked.environment {fin : StageEnd}
    (h : c.Checked stage s sent response w rules fin entries w') :
    w'.environment = w.environment := by
  cases h with
  | completed hran => exact hran.environment
  | refused _ _ hran hcheck => exact (environment_of_check hcheck).trans hran.environment
  | halted _ hran hcheck => exact (environment_of_check hcheck).trans hran.environment

end Stages

end Caller

/-! ## Extractors -/

/-- The changes bind variables, and take none away. -/
def Extraction.OnlyBinds (x : Extraction) : Prop :=
  ∃ values : List (String × Json), x.edits = values.map fun v => .bind v.1 v.2

namespace Extractor

variable {rule : Rule}

/-- **No standard extractor takes a variable away.** -/
theorem standard_onlyBinds {extractor : Extractor σ}
    (h : OrderedMap.get? standard rule.key = some extractor) (scene : Scene)
    (evaluator : Option (Evaluator σ)) (host : σ) :
    (extractor rule scene evaluator host).value.OnlyBinds := by
  obtain ⟨values, hedits, -⟩ := standard_collects h scene evaluator host
  exact ⟨values, hedits⟩

end Extractor

theorem Environment.foldl_apply_bind (e : Environment) (values : List (String × Json)) :
    (values.map fun v => Edit.bind v.1 v.2).foldl Environment.apply e = e.bindAll values :=
  List.foldl_map

namespace Caller

variable {c : Caller σ} {s : ResolvedScript} {w w₁ : World σ} {r : Call × World σ}
  {request : Request} {response : Response} {entries : List LedgerEntry}
  {own taken : List (String × Json)}

/-- An extractor that is run ends as it says, and its changes are made to the variables. -/
theorem takeOne_of_extractor {rule : Rule} {extractor : Extractor σ}
    (h : c.registry.extractor rule.key = .ok extractor) (scene : Scene) (w : World σ) :
    (c.takeOne rule scene w).1 =
      (extractor rule scene c.services.evaluator w.host).value.result
    ∧ (c.takeOne rule scene w).2.environment =
        (extractor rule scene c.services.evaluator w.host).value.edits.foldl Environment.apply
          w.environment := by
  unfold takeOne
  rw [h]
  exact ⟨rfl, rfl⟩

/-- What a call does apart from sending can bind variables, and do nothing else to them. -/
theorem quiet_binds (hregistry : c.registry = .standard) :
    c.Quiet fun w w' => ∃ values, w'.environment = w.environment.bindAll values where
  refl w := ⟨[], rfl⟩
  trans := by
    rintro w₁ w₂ w₃ ⟨values, h⟩ ⟨more, h'⟩
    exact ⟨values ++ more, by rw [h', h, Environment.bindAll_append]⟩
  poll w := ⟨[], rfl⟩
  note w n := ⟨[], rfl⟩
  bind w name value := ⟨[(name, value)], rfl⟩
  check stage rule scene w := ⟨[], c.check_environment stage rule scene w⟩
  takeOne rule scene w := by
    have hextractor : c.registry.extractor rule.key = Registry.standard.extractor rule.key := by
      rw [hregistry]
    cases hkey : OrderedMap.get? Registry.standard.extractors rule.key with
    | none =>
      refine ⟨[], ?_⟩
      unfold Caller.takeOne
      rw [hextractor]
      unfold Registry.extractor
      rw [hkey]
      rfl
    | some extractor =>
      have hfound : Registry.standard.extractor rule.key = .ok extractor := by
        unfold Registry.extractor
        rw [hkey]
      obtain ⟨values, hedits⟩ :=
        Extractor.standard_onlyBinds hkey scene c.services.evaluator w.host
      obtain ⟨-, henvironment⟩ := takeOne_of_extractor (hextractor.trans hfound) scene w
      exact ⟨values, by rw [henvironment, hedits, Environment.foldl_apply_bind]⟩

/-! ## Calls -/

/-- The extractors of a call were run and bound these values: a response had come, no stop was seen
then, and up to this moment only the variables of the script had been bound. -/
inductive Takes (c : Caller σ) (s : ResolvedScript) (w : World σ)
    (own taken : List (String × Json)) : Prop where
  | intro {request : Request} {response : Response} {entries : List LedgerEntry} {w₁ : World σ}
      (hreceives : c.Receives s w request response entries w₁)
      (hgoing : (w₁.poll c.services).stopped = false)
      (hbefore : w₁.environment = w.environment.bindAll own)
      (hafter : (c.takeAll s (some request) (some response) s.layer.extractors []
        (w₁.poll c.services)).2.2.environment = w₁.environment.bindAll taken)

/-- A call does not begin: a rule has no behavior, or a stop is seen first. -/
def NeverBegins (c : Caller σ) (s : ResolvedScript) (w : World σ) : Prop :=
  (∃ e, c.registry.validate s = .error e) ∨ (w.poll c.services).stopped = true

/-- What a call has bound: variables of the script, and behind them what its extractors took. -/
structure Writes (c : Caller σ) (s : ResolvedScript) (w : World σ) (r : Call × World σ)
    (own taken : List (String × Json)) : Prop where
  /-- The variables and events are those from before, with these bindings made in this order. -/
  environment : r.2.environment = w.environment.bindAll (own ++ taken)
  /-- Variables of the script are bound in the order of their section, unless the call does not begin,
  and all of them are if the request stands. -/
  scripted : c.NeverBegins s w ∧ own = []
    ∨ ∃ result, c.BindsUpTo (w.poll c.services) s.layer.env own result
      ∧ (r.1.request ≠ none → result = .ok ())
  /-- There is nothing else but what extractors bind. -/
  extracted : taken = [] ∨ c.Takes s w own taken

theorem NeverBegins.writes (h : c.NeverBegins s w)
    (henvironment : r.2.environment = w.environment) : c.Writes s w r [] [] where
  environment := henvironment
  scripted := .inl ⟨h, rfl⟩
  extracted := .inl rfl

/-- A call that ends before its extractors are run has bound the variables of its script. -/
theorem Builds.writes {built : World σ} (h : c.Builds s w request built)
    (henvironment : r.2.environment = built.environment) : ∃ own taken, c.Writes s w r own taken := by
  obtain ⟨own, hbinds, rfl⟩ := h.binds
  refine ⟨own, [], ?_, .inr ⟨_, .whole hbinds, fun _ => rfl⟩, .inl rfl⟩
  rw [List.append_nil]
  exact henvironment

theorem Sends.builds (h : c.Sends s w request entries w₁) :
    ∃ built, c.Builds s w request built ∧ w₁.environment = built.environment := by
  obtain ⟨hbuilds, hran, -⟩ := h
  exact ⟨_, hbuilds, hran.environment⟩

theorem Receives.builds (h : c.Receives s w request response entries w₁) :
    ∃ built, c.Builds s w request built ∧ w₁.environment = built.environment := by
  obtain ⟨hsends, -⟩ := h
  exact hsends.builds

theorem Receives.writes (hregistry : c.registry = .standard)
    (h : c.Receives s w request response entries w₁)
    (hgoing : (w₁.poll c.services).stopped = false)
    (henvironment : r.2.environment = (c.takeAll s (some request) (some response)
      s.layer.extractors [] (w₁.poll c.services)).2.2.environment) :
    ∃ own taken, c.Writes s w r own taken := by
  obtain ⟨built, hbuilds, hbefore⟩ := h.builds
  obtain ⟨own, hbinds, rfl⟩ := hbuilds.binds
  obtain ⟨taken, htaken⟩ := (quiet_binds hregistry).takeAll s (some request) (some response)
    s.layer.extractors [] (w₁.poll c.services)
  have hafter : (c.takeAll s (some request) (some response) s.layer.extractors []
      (w₁.poll c.services)).2.2.environment = w₁.environment.bindAll taken := htaken
  have hbefore : w₁.environment = w.environment.bindAll own := hbefore
  refine ⟨own, taken, ?_, .inr ⟨_, .whole hbinds, fun _ => rfl⟩,
    .inr (.intro h hgoing hbefore hafter)⟩
  rw [henvironment, hafter, hbefore, Environment.bindAll_append]

theorem Extracts.writes (hregistry : c.registry = .standard) {messages : List String}
    (h : c.Extracts s w request response entries messages w₁)
    (henvironment : r.2.environment = w₁.environment) : ∃ own taken, c.Writes s w r own taken := by
  obtain ⟨hreceives, hgoing, htake⟩ := h
  refine hreceives.writes hregistry hgoing ?_
  rw [htake]
  exact henvironment

/-- **What a call binds**, on each of the ways in which it can end. -/
theorem Ends.writes (hregistry : c.registry = .standard) (h : c.Ends s w r) :
    ∃ own taken, c.Writes s w r own taken := by
  -- extractors are run in the last four ways out, and nothing binds a variable behind them
  cases h with
  | misconfigured hvalid => exact ⟨[], [], NeverBegins.writes (.inl ⟨_, hvalid⟩) rfl⟩
  | stoppedAtStart _ hstop => exact ⟨[], [], NeverBegins.writes (.inr hstop) rfl⟩
  | unbuilt _ _ hbuild =>
    obtain ⟨own, result, hbinds, rfl⟩ := bindsUpTo_of_unbuilt hbuild
    refine ⟨own, [], ?_, .inr ⟨result, hbinds, fun h => absurd rfl h⟩, .inl rfl⟩
    rw [List.append_nil]
    rfl
  | refused hbuilds hchecked => exact hbuilds.writes hchecked.environment
  | preconditionHalted hbuilds hchecked => exact hbuilds.writes hchecked.environment
  | stoppedBeforeSending hbuilds hran _ => exact hbuilds.writes hran.environment
  | unanswered hsends _ =>
    obtain ⟨_, hbuilds, henvironment⟩ := hsends.builds
    exact hbuilds.writes henvironment
  | stoppedOnReceipt hreceives _ =>
    obtain ⟨_, hbuilds, henvironment⟩ := hreceives.builds
    exact hbuilds.writes henvironment
  | extractionHalted hreceives hgoing htake =>
    refine hreceives.writes hregistry hgoing ?_
    rw [htake]
    rfl
  | stoppedBeforeAsserting hextracts _ => exact hextracts.writes hregistry rfl
  | assertionHalted hasserts hchecked =>
    obtain ⟨hextracts, -⟩ := hasserts
    exact hextracts.writes hregistry hchecked.environment
  | asserted hasserts hran =>
    obtain ⟨hextracts, -⟩ := hasserts
    exact hextracts.writes hregistry hran.environment

theorem NeverBegins.environment_eq (h : c.NeverBegins s w) :
    (c.run s w).2.environment = w.environment := by
  unfold run
  cases hvalid : c.registry.validate s with
  | error e => rfl
  | ok _ =>
    rcases h with ⟨e, hfault⟩ | hstop
    · cases hvalid.symm.trans hfault
    · dsimp only
      rw [if_pos hstop]
      rfl

/-- **What a call may write.** With the standard behaviors, the variables and the events behind a call
are those before it with a sequence of bindings made: variables of the script, in the order of their
section and up to one that does not expand, and then what its extractors take. Neither the request nor
a check binds anything, and only a call that has got a response and has not seen a stop then runs its
extractors. So no variable is taken away, the names keep their order, and new ones come behind them in
the order in which they were first bound. A call that does not begin, because it is misconfigured or
sees a stop, binds nothing. The section of a script is that of its chain, from the root down. -/
theorem run_writes (hregistry : c.registry = .standard) (s : ResolvedScript) (w : World σ) :
    (∃ own taken, c.Writes s w (c.run s w) own taken
      ∧ OrderedMap.keys (c.run s w).2.environment.bindings =
          OrderedMap.keys w.environment.bindings ++
            ((OrderedMap.keys (own ++ taken)).removeAll
              (OrderedMap.keys w.environment.bindings)).eraseDups)
    ∧ (c.NeverBegins s w → (c.run s w).2.environment = w.environment)
    ∧ (∀ stage rule scene w', (c.check stage rule scene w').2.environment = w'.environment)
    ∧ ∀ (script : Script) (t : Templates) (b : Bindings), script.resolve t b = .ok s →
        ∃ path levels, t.chain b script = .ok path
          ∧ List.Forall₂ (fun x env => Script.DeclaresMembers x "env" env) path levels
          ∧ s.layer.env = levels.flatten := by
  refine ⟨?_, NeverBegins.environment_eq, c.check_environment, fun _ _ _ => Script.env_of_resolve⟩
  obtain ⟨own, taken, hwrites⟩ := (c.run_ends s w).writes hregistry
  refine ⟨own, taken, hwrites, ?_⟩
  rw [hwrites.environment]
  exact w.environment.keys_bindAll (own ++ taken)

/-- A script that binds a new variable, binds one anew that refers to it, and takes the body. -/
def rebinding : ResolvedScript where
  name := "rebind"
  chain := []
  line? := some (.get, "/")
  body := none
  layer := {
    headers := []
    env := [("stem", .string "v"), ("tag", .string "\x7b@stem@\x7d2")]
    preconditions := []
    extractors := [⟨.extraction, "text", .string "body", false, "rebind"⟩]
    assertions := [] }

/-- A world in which one of the variables is bound. -/
def tagged : World Replay :=
  (World.start .empty ⟨[], []⟩).bind "tag" (.string "v1")

/-- The variable that was there keeps its place and gets the new value. -/
theorem run_writes_rebinding :
    Replay.caller.registry = .standard
    ∧ (∃ own taken, Replay.caller.Writes rebinding tagged (Replay.caller.run rebinding tagged) own
        taken)
    ∧ ((Replay.caller.run rebinding tagged).2.environment.bindings.map
        fun b => (b.1, b.2.display)) = [("tag", "v2"), ("stem", "v"), ("body", "")] := by
  obtain ⟨⟨own, taken, hwrites, -⟩, -⟩ := run_writes (c := Replay.caller) rfl rebinding tagged
  exact ⟨rfl, ⟨own, taken, hwrites⟩, by decide +kernel⟩

end Caller

end RestSuite
