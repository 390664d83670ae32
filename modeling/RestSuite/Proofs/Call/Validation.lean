import RestSuite.Proofs.Call.Exchange
import RestSuite.Proofs.Sequencing

/-!
# Calls of misconfigured scripts

The keys of all rules are looked up before anything else is done, and each of them once more when its
rule is run. Extractors and checks have tables of their own, so a key counts for a stage only. A key that
is missing ends the call at once; where none is, the later look-ups cannot miss one.

* **`Registry.Registers`** — a key has a behavior for a stage.
* **`Registry.validate_eq_error_iff`**, **`Registry.validate_eq_ok_iff`** — what the first look-up finds.
* **`Registry.Extends`** — a registry with more behaviors.
* **`Caller.run_withRegistry`** — a validated call does not see which behaviors there are besides.
* **`Caller.run_validated`** — what this comes to for a call.
-/

namespace RestSuite

variable {σ : Type}

/-- The rules of a script, each with its stage: the preconditions, the extractors, the assertions. -/
def ResolvedScript.staged (s : ResolvedScript) : List (Stage × Rule) :=
  s.layer.preconditions.map (Stage.precondition, ·) ++
    (s.layer.extractors.map (Stage.extraction, ·) ++ s.layer.assertions.map (Stage.assertion, ·))

theorem ResolvedScript.mem_staged {s : ResolvedScript} {stage : Stage} {rule : Rule} :
    (stage, rule) ∈ s.staged ↔ rule ∈ s.rules stage := by
  unfold staged rules
  cases stage <;> simp

namespace Registry

variable {r r' : Registry σ} {s : ResolvedScript} {stage : Stage} {key : String}

/-! ## Looking up all keys -/

/-- The key is registered for the stage: as an extractor, or as an assertion for both stages of checks. -/
def Registers (r : Registry σ) : Stage → String → Prop
  | .extraction, key => key ∈ OrderedMap.keys r.extractors
  | .precondition, key => key ∈ OrderedMap.keys r.assertions
  | .assertion, key => key ∈ OrderedMap.keys r.assertions

/-- The rule is the first of the script whose key is not registered for its stage. -/
inductive FirstUnknown (r : Registry σ) (s : ResolvedScript) : Stage → Rule → Prop where
  | intro {before after : List (Stage × Rule)} {stage : Stage} {rule : Rule}
      (hrules : s.staged = before ++ (stage, rule) :: after)
      (hbefore : ∀ x ∈ before, r.Registers x.1 x.2.key)
      (hunknown : ¬ r.Registers stage rule.key) : FirstUnknown r s stage rule

theorem knows_iff : r.knows stage key = true ↔ r.Registers stage key := by
  cases stage <;> exact OrderedMap.contains_iff

theorem firstUnknown?_eq (r : Registry σ) (s : ResolvedScript) :
    r.firstUnknown? s = s.staged.findSome? fun x =>
      if r.knows x.1 x.2.key then none else some (.unknownRule x.1 x.2.key) := by
  unfold firstUnknown? ResolvedScript.staged
  rw [List.findSome?_append, List.findSome?_append, List.findSome?_map, List.findSome?_map,
    List.findSome?_map, List.findSome?_cons, List.findSome?_cons, List.findSome?_cons]
  simp only [ResolvedScript.rules, Function.comp_def, List.findSome?_nil]
  grind

/-- A script is refused for its first rule without a behavior. -/
theorem validate_eq_error_iff {e : ConfigurationError} :
    r.validate s = .error e ↔
      ∃ stage rule, r.FirstUnknown s stage rule ∧ e = .unknownRule stage rule.key := by
  have hfound : r.validate s = .error e ↔ r.firstUnknown? s = some e := by
    unfold validate
    cases r.firstUnknown? s <;> simp
  rw [hfound, firstUnknown?_eq, List.findSome?_eq_some_iff]
  constructor
  · rintro ⟨before, ⟨stage, rule⟩, after, hrules, hrule, hbefore⟩
    have hnot : ¬ r.knows stage rule.key = true := fun hknows => by simp [hknows] at hrule
    rw [if_neg hnot] at hrule
    refine ⟨stage, rule, ⟨hrules, fun x hx => ?_, mt knows_iff.2 hnot⟩, (Option.some.inj hrule).symm⟩
    by_contra hx'
    have hnone := hbefore x hx
    rw [if_neg (mt knows_iff.1 hx')] at hnone
    cases hnone
  · rintro ⟨stage, rule, ⟨hrules, hbefore, hunknown⟩, rfl⟩
    refine ⟨_, (stage, rule), _, hrules, if_neg (mt knows_iff.1 hunknown), fun x hx => ?_⟩
    exact if_pos (knows_iff.2 (hbefore x hx))

/-- It is accepted if there is none. -/
theorem validate_eq_ok_iff :
    r.validate s = .ok () ↔ ∀ x ∈ s.staged, r.Registers x.1 x.2.key := by
  have hfound : r.validate s = .ok () ↔ r.firstUnknown? s = none := by
    unfold validate
    cases r.firstUnknown? s <;> simp
  rw [hfound, firstUnknown?_eq, List.findSome?_eq_none_iff]
  refine forall₂_congr fun x _ => ?_
  rw [← knows_iff]
  split <;> simp_all

/-! ## Looking up one key -/

/-- The registry has the behaviors of another one, under the same keys. It may have more. -/
structure Extends (r' r : Registry σ) : Prop where
  extractors : ∀ {key x}, OrderedMap.get? r.extractors key = some x →
    OrderedMap.get? r'.extractors key = some x
  assertions : ∀ {key a}, OrderedMap.get? r.assertions key = some a →
    OrderedMap.get? r'.assertions key = some a

/-- A look-up of a registered key finds a behavior, and in a larger registry the same. -/
theorem extractor_of_registers (h : r.Registers .extraction key) :
    ∃ x, r.extractor key = .ok x ∧ ∀ r' : Registry σ, r'.Extends r → r'.extractor key = .ok x := by
  obtain ⟨x, hx⟩ := OrderedMap.mem_keys_iff.1 h
  refine ⟨x, by rw [extractor, hx], fun r' hextends => ?_⟩
  rw [extractor, hextends.extractors hx]

theorem assertion_of_registers (hstage : stage ≠ .extraction) (h : r.Registers stage key) :
    ∃ a, r.assertion stage key = .ok a
      ∧ ∀ r' : Registry σ, r'.Extends r → r'.assertion stage key = .ok a := by
  have hkey : key ∈ OrderedMap.keys r.assertions := by
    cases stage with
    | extraction => exact absurd rfl hstage
    | precondition => exact h
    | assertion => exact h
  obtain ⟨a, ha⟩ := OrderedMap.mem_keys_iff.1 hkey
  refine ⟨a, by rw [assertion, ha], fun r' hextends => ?_⟩
  rw [assertion, hextends.assertions ha]

/-- What a registry registers, a larger one does too. -/
theorem Extends.registers (hextends : r'.Extends r) (h : r.Registers stage key) :
    r'.Registers stage key := by
  have hmem : ∀ {α : Type} {m m' : OrderedMap α},
      (∀ {key x}, OrderedMap.get? m key = some x → OrderedMap.get? m' key = some x) →
      key ∈ m.keys → key ∈ m'.keys := by
    intro α m m' hkeep hkey
    obtain ⟨x, hx⟩ := OrderedMap.mem_keys_iff.1 hkey
    exact OrderedMap.mem_keys_iff.2 ⟨x, hkeep hx⟩
  cases stage with
  | extraction => exact hmem hextends.extractors h
  | precondition => exact hmem hextends.assertions h
  | assertion => exact hmem hextends.assertions h

/-- What is put under a free key hides nothing. -/
theorem get?_put_of_free {α : Type} {m : OrderedMap α} {other : String} {value found : α}
    (hfree : ¬ OrderedMap.contains m key = true) (hfound : OrderedMap.get? m other = some found) :
    OrderedMap.get? (OrderedMap.put m key value) other = some found := by
  have hne : key ≠ other := by
    rintro rfl
    exact hfree (Option.isSome_iff_exists.2 ⟨found, hfound⟩)
  rw [OrderedMap.get?_put, if_neg hne, hfound]

/-- A registry that an assertion is added to keeps all its behaviors: the key was free. -/
theorem addAssertion_extends {a : Assertion σ} (h : r.addAssertion key a = .ok r') : r'.Extends r := by
  unfold addAssertion at h
  split at h
  · cases h
  · next hfree =>
    cases h
    exact ⟨id, get?_put_of_free hfree⟩

end Registry

/-! ## Running with a larger registry -/

namespace Caller

variable {c : Caller σ} {r' : Registry σ} {s : ResolvedScript} {w : World σ}

/-- The caller with other behaviors. -/
def withRegistry (c : Caller σ) (r' : Registry σ) : Caller σ :=
  { c with registry := r' }

theorem bindEnv_withRegistry (env : List (String × Json)) :
    (c.withRegistry r').bindEnv w env = c.bindEnv w env := by
  induction env generalizing w with
  | nil => rfl
  | cons entry rest ih =>
    have hvalue : (c.withRegistry r').expandValue w entry.2 = c.expandValue w entry.2 := by
      cases entry.2 <;> rfl
    simp only [bindEnv, hvalue, ih]

/-- No behavior takes part in the building of a request. -/
theorem build_withRegistry : (c.withRegistry r').build s w = c.build s w := by
  unfold build
  rw [bindEnv_withRegistry]
  rfl

variable {request : Option Request} {response : Option Response} {rules : List Rule}

/-- Checks whose keys are registered run as they do without the behaviors that were added. Induction on
the checks that are left. -/
theorem checkAll_withRegistry (hextends : r'.Extends c.registry) {stage : Stage}
    (hstage : stage ≠ .extraction) (hrules : ∀ rule ∈ rules, c.registry.Registers stage rule.key)
    (call : Call) :
    (c.withRegistry r').checkAll stage s request response rules call w =
      c.checkAll stage s request response rules call w := by
  induction rules generalizing call w with
  | nil => rfl
  | cons rule rest ih =>
    obtain ⟨hrule, hrest⟩ := List.forall_mem_cons.1 hrules
    obtain ⟨a, ha, hlarger⟩ := Registry.assertion_of_registers hstage hrule
    have hcheck : (c.withRegistry r').check stage rule (c.scene s request response w) w =
        c.check stage rule (c.scene s request response w) w := by
      unfold check
      rw [ha, show (c.withRegistry r').registry.assertion stage rule.key = .ok a from
        hlarger r' hextends]
      rfl
    have hscene : (c.withRegistry r').scene s request response w = c.scene s request response w := rfl
    simp only [checkAll, hscene, hcheck, ih hrest]

/-- So do extractors. -/
theorem takeAll_withRegistry (hextends : r'.Extends c.registry)
    (hrules : ∀ rule ∈ rules, c.registry.Registers .extraction rule.key) (messages : List String) :
    (c.withRegistry r').takeAll s request response rules messages w =
      c.takeAll s request response rules messages w := by
  induction rules generalizing messages w with
  | nil => rfl
  | cons rule rest ih =>
    obtain ⟨hrule, hrest⟩ := List.forall_mem_cons.1 hrules
    obtain ⟨x, hx, hlarger⟩ := Registry.extractor_of_registers hrule
    have htake : (c.withRegistry r').takeOne rule (c.scene s request response w) w =
        c.takeOne rule (c.scene s request response w) w := by
      unfold takeOne
      rw [hx, show (c.withRegistry r').registry.extractor rule.key = .ok x from hlarger r' hextends]
      rfl
    have hscene : (c.withRegistry r').scene s request response w = c.scene s request response w := rfl
    simp only [takeAll, hscene, htake, ih hrest]

section Stages

variable (hextends : r'.Extends c.registry)
  (hregistered : ∀ x ∈ s.staged, c.registry.Registers x.1 x.2.key)
include hextends hregistered

theorem assertStage_withRegistry (request : Request) (response : Response) (call : Call) :
    (c.withRegistry r').assertStage s request response call w =
      c.assertStage s request response call w := by
  have hrules : ∀ rule ∈ s.layer.assertions, c.registry.Registers .assertion rule.key :=
    fun rule hrule => hregistered (.assertion, rule) (s.mem_staged.2 hrule)
  unfold assertStage
  rw [checkAll_withRegistry hextends (by decide) hrules]

theorem extractStage_withRegistry (request : Request) (response : Response) (call : Call) :
    (c.withRegistry r').extractStage s request response call w =
      c.extractStage s request response call w := by
  have hrules : ∀ rule ∈ s.layer.extractors, c.registry.Registers .extraction rule.key :=
    fun rule hrule => hregistered (.extraction, rule) (s.mem_staged.2 hrule)
  have hservices : (c.withRegistry r').services = c.services := rfl
  unfold extractStage
  simp only [takeAll_withRegistry hextends hrules, assertStage_withRegistry hextends hregistered,
    hservices]

theorem sendStage_withRegistry (request : Request) (call : Call) :
    (c.withRegistry r').sendStage s request call w = c.sendStage s request call w := by
  have hservices : (c.withRegistry r').services = c.services := rfl
  unfold sendStage
  simp only [extractStage_withRegistry hextends hregistered, hservices]

theorem preconditionStage_withRegistry (request : Request) (call : Call) :
    (c.withRegistry r').preconditionStage s request call w =
      c.preconditionStage s request call w := by
  have hrules : ∀ rule ∈ s.layer.preconditions, c.registry.Registers .precondition rule.key :=
    fun rule hrule => hregistered (.precondition, rule) (s.mem_staged.2 hrule)
  have hchecks : Stage.precondition ≠ .extraction := by decide
  have hservices : (c.withRegistry r').services = c.services := rfl
  unfold preconditionStage
  simp only [checkAll_withRegistry hextends hchecks hrules,
    sendStage_withRegistry hextends hregistered, hservices]

/-- **A validated call does not see what else is registered.** A look-up that missed would: any behavior
could stand where the error came from. -/
theorem run_withRegistry : (c.withRegistry r').run s w = c.run s w := by
  have hvalid := Registry.validate_eq_ok_iff.2 hregistered
  have hvalid' : (c.withRegistry r').registry.validate s = .ok () :=
    Registry.validate_eq_ok_iff.2 fun x hx => hextends.registers (hregistered x hx)
  have hservices : (c.withRegistry r').services = c.services := rfl
  unfold run
  simp only [hvalid, hvalid', build_withRegistry,
    preconditionStage_withRegistry hextends hregistered, hservices]

end Stages

/-! ## Both cases -/

/-- The record of a call whose script is refused: every check is skipped, nothing was sent, and the
error says why. -/
def misconfigured (s : ResolvedScript) (e : ConfigurationError) : Call :=
  { Call.fresh s.name with
    skipped := skippedEntries (s.layer.preconditions ++ s.layer.assertions) "script is misconfigured"
    error := some (.configuration e)
    state := .failed }

theorem run_of_validate_eq_error {e : ConfigurationError} (h : c.registry.validate s = .error e) :
    c.run s w = (misconfigured s e, w.note (.callFailed s.name e.message)) := by
  unfold run
  rw [h]
  rfl

/-- **A misconfigured script has no effect, and a validated one never meets an unknown key.** If a rule's
key is not registered for its stage, the call ends in the error that names the first such rule, with all
checks skipped, and leaves the world as it was but for a notice: nothing is bound, published, written,
sent or asked of the host. No behavior takes part in that, so it is the same for every caller whose
registry has these keys. If all keys are registered, every look-up that a check or an extractor begins
with finds a behavior, and the call goes as it does with any larger registry. -/
theorem run_validated (c : Caller σ) (s : ResolvedScript) (w : World σ) :
    ((∃ x ∈ s.staged, ¬ c.registry.Registers x.1 x.2.key) →
      ∃ stage rule, c.registry.FirstUnknown s stage rule
        ∧ c.run s w = (misconfigured s (.unknownRule stage rule.key),
            w.note (.callFailed s.name (ConfigurationError.unknownRule stage rule.key).message))
        ∧ ∀ c' : Caller σ,
            (∀ stage key, c'.registry.Registers stage key ↔ c.registry.Registers stage key) →
            c'.run s w = c.run s w)
    ∧ ((∀ x ∈ s.staged, c.registry.Registers x.1 x.2.key) →
      (∀ stage, stage ≠ .extraction → ∀ rule ∈ s.rules stage,
        ∃ a, c.registry.assertion stage rule.key = .ok a)
      ∧ (∀ rule ∈ s.rules .extraction, ∃ x, c.registry.extractor rule.key = .ok x)
      ∧ ∀ r' : Registry σ, r'.Extends c.registry → (c.withRegistry r').run s w = c.run s w) := by
  constructor
  · rintro ⟨x, hx, hunknown⟩
    cases hvalid : c.registry.validate s with
    | ok _ => exact absurd (Registry.validate_eq_ok_iff.1 hvalid x hx) hunknown
    | error e =>
      obtain ⟨stage, rule, hfirst, rfl⟩ := Registry.validate_eq_error_iff.1 hvalid
      refine ⟨stage, rule, hfirst, run_of_validate_eq_error hvalid, fun c' hkeys => ?_⟩
      have hfirst' : c'.registry.FirstUnknown s stage rule := by
        obtain ⟨hrules, hbefore, hunknown⟩ := hfirst
        exact ⟨hrules, fun x hx => (hkeys _ _).2 (hbefore x hx), mt (hkeys _ _).1 hunknown⟩
      rw [run_of_validate_eq_error hvalid, run_of_validate_eq_error
        (Registry.validate_eq_error_iff.2 ⟨stage, rule, hfirst', rfl⟩)]
  · intro hregistered
    refine ⟨fun stage hstage rule hrule => ?_, fun rule hrule => ?_, fun r' hextends => ?_⟩
    · have hkey := hregistered (stage, rule) (s.mem_staged.2 hrule)
      exact (Registry.assertion_of_registers hstage hkey).imp fun a h => h.1
    · have hkey := hregistered (.extraction, rule) (s.mem_staged.2 hrule)
      exact (Registry.extractor_of_registers hkey).imp fun x h => h.1
    · exact run_withRegistry hextends hregistered

/-- A script with a key of an extractor among its preconditions and one of an assertion among its
extractors. -/
def misplaced : ResolvedScript where
  name := "misplaced"
  chain := []
  line? := some (.get, "/")
  body := none
  layer :=
    { Layer.empty with
      env := [("x", .null)]
      preconditions := [⟨.precondition, "jsonPath", .null, false, "misplaced"⟩]
      extractors := [⟨.extraction, "status", .null, false, "misplaced"⟩]
      assertions := [⟨.assertion, "status", .ofNat 200, false, "misplaced"⟩] }

/-- The same with keys of their stages. -/
def placed : ResolvedScript :=
  { misplaced with
    layer :=
      { misplaced.layer with
        preconditions := [⟨.precondition, "bound", .string "x", false, "placed"⟩]
        extractors := [⟨.extraction, "text", .string "body", true, "placed"⟩] } }

/-- An assertion that never holds. -/
def never : Assertion Replay :=
  Assertion.ofCheck fun _ _ => .ok (.fail "never")

/-- The first script is refused for its precondition, though the key is one of an extractor. The second
one runs, and a further assertion does not change how it runs. -/
theorem run_validated_misplaced :
    (∃ x ∈ misplaced.staged, ¬ Replay.caller.registry.Registers x.1 x.2.key)
    ∧ (∃ stage rule, Replay.caller.registry.FirstUnknown misplaced stage rule
      ∧ Replay.caller.run misplaced (World.start .empty ⟨[], []⟩) =
        (misconfigured misplaced (.unknownRule stage rule.key),
          (World.start .empty ⟨[], []⟩).note (.callFailed "misplaced"
            (ConfigurationError.unknownRule stage rule.key).message)))
    ∧ (Replay.caller.run misplaced (World.start .empty ⟨[], []⟩)).1.error =
        some (.configuration (.unknownRule .precondition "jsonPath"))
    ∧ (∀ x ∈ placed.staged, Replay.caller.registry.Registers x.1 x.2.key)
    ∧ ∃ r', Replay.caller.registry.addAssertion "never" never = .ok r'
      ∧ (Replay.caller.withRegistry r').run placed (World.start .empty ⟨[], []⟩) =
        Replay.caller.run placed (World.start .empty ⟨[], []⟩)
      ∧ (Replay.caller.run placed (World.start .empty ⟨[], []⟩)).1.state = .asserted := by
  have hunknown : ∃ x ∈ misplaced.staged, ¬ Replay.caller.registry.Registers x.1 x.2.key :=
    ⟨(.precondition, _), List.mem_cons_self, by
      show "jsonPath" ∉ OrderedMap.keys Assertion.standard
      decide⟩
  have hregistered : ∀ x ∈ placed.staged, Replay.caller.registry.Registers x.1 x.2.key := by
    refine List.forall_mem_cons.2 ⟨?_, List.forall_mem_cons.2 ⟨?_, List.forall_mem_singleton.2 ?_⟩⟩
    · show "bound" ∈ OrderedMap.keys Assertion.standard
      decide
    · show "text" ∈ OrderedMap.keys Extractor.standard
      decide
    · show "status" ∈ OrderedMap.keys Assertion.standard
      decide
  obtain ⟨stage, rule, hfirst, hrun, -⟩ :=
    (run_validated Replay.caller misplaced (World.start .empty ⟨[], []⟩)).1 hunknown
  obtain ⟨-, -, hlarger⟩ :=
    (run_validated Replay.caller placed (World.start .empty ⟨[], []⟩)).2 hregistered
  obtain ⟨r', hadd⟩ : ∃ r', Replay.caller.registry.addAssertion "never" never = .ok r' :=
    exists_of_isOk (by decide)
  refine ⟨hunknown, ⟨stage, rule, hfirst, hrun⟩, by decide +kernel, hregistered, r', hadd,
    hlarger r' (Registry.addAssertion_extends hadd), by decide +kernel⟩

end Caller

end RestSuite
