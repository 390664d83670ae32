import RestSuite.Proofs.Call.Variables

/-!
# What an extractor leaves behind

A call runs an extractor and makes the changes that it asks for, however it ends. What is left
behind are the first of its targets, bound in their order, and nothing else; where they end, the
next one is not given by the response.

* **`Caller.TakesUpTo`** — the targets of a rule, cut where the extractor has stopped.
* **`Caller.takeOne_targets`** — every standard extractor leaves such a cut behind.
* **`Caller.not_succeedsWithTargets_misdirected`** — that all targets are bound does not mean that
  the extractor succeeds: a rule can have none.
-/

namespace RestSuite

namespace Caller

open Extractor

variable {σ : Type}

/-- What an extractor does to the variables. The targets of its rule are bound to their values, in
their order, as far as `done` reaches, and it stands there because the next one is not given. -/
structure TakesUpTo (c : Caller σ) (rule : Rule) (scene : Scene) (w : World σ)
    (done rest : List Target) (values : List (String × Json)) : Prop where
  targets : targets rule = done ++ rest
  given : Gathers scene [] done values
  missing : ∀ target ∈ rest.head?, ∀ name value, ¬ Gives scene values target name value
  bound : (c.takeOne rule scene w).2.environment = w.environment.bindAll values
  others : ∀ name, name ∉ OrderedMap.keys values →
    OrderedMap.get? (c.takeOne rule scene w).2.environment.bindings name =
      OrderedMap.get? w.environment.bindings name

/-- **Every standard extractor binds a part of its targets and nothing else**: those before the
first one that is not given. They are all of them exactly if it succeeds, or if it has none. -/
theorem takeOne_targets (c : Caller σ) (s : ResolvedScript) (request : Option Request)
    (response : Option Response) (rule : Rule) (w : World σ) {extractor : Extractor σ}
    (hstandard : OrderedMap.get? standard rule.key = some extractor)
    (hregistry : c.registry.extractor rule.key = .ok extractor) :
    ∃ done rest values,
      c.TakesUpTo rule (c.scene s request response w) w done rest values
      ∧ (rest = [] ↔
          (c.takeOne rule (c.scene s request response w) w).1 = .ok () ∨ Targetless rule) := by
  generalize c.scene s request response w = scene
  obtain ⟨hresult, henvironment⟩ := takeOne_of_extractor hregistry scene w
  obtain ⟨done, rest, values, htargets, hedits, hgiven, hmissing, hrest⟩ :=
    (standard_collects hstandard scene c.services.evaluator w.host).upTo
  have hbound : (c.takeOne rule scene w).2.environment = w.environment.bindAll values := by
    rw [henvironment, hedits, Environment.foldl_apply_bind]
  have hothers : ∀ name, name ∉ OrderedMap.keys values →
      OrderedMap.get? (c.takeOne rule scene w).2.environment.bindings name =
        OrderedMap.get? w.environment.bindings name := by
    intro name hname
    rw [hbound]
    exact w.environment.get?_bindAll hname
  refine ⟨done, rest, values, ⟨htargets, hgiven, hmissing, hbound, hothers⟩, ?_⟩
  rw [hresult, ← targets_eq_nil_iff]
  exact hrest

/-- A rule whose second path depends on what its first one leads to, and whose third path leads
nowhere. -/
def pointing : Rule :=
  ⟨.extraction, "jsonPath", .object [("key", .string "$.key"),
    ("value", .string "$.\x7b@key@\x7d"), ("gone", .string "$.gone"), ("late", .string "$.key")],
    false, "point"⟩

/-- A response with a name and with what it names. -/
def signpost : Response :=
  ⟨200, "OK", [], "\x7b\"key\": \"left\", \"left\": 7\x7d".toUTF8⟩

/-- A world in which the variable that the rule binds first has another value. -/
def pointed : World Replay :=
  (World.start .empty ⟨[], []⟩).bind "key" (.string "gone")

/-- The call that the rule belongs to. -/
def pointedScene : Scene :=
  Replay.caller.scene ⟨"point", [], none, none, .empty⟩ none (some signpost) pointed

/-- Two of the four are bound, the second by the new value of the first. -/
theorem takeOne_targets_pointing :
    OrderedMap.get? standard pointing.key = some (ofTaker jsonPath : Extractor Replay)
    ∧ Replay.caller.registry.extractor pointing.key = .ok (ofTaker jsonPath)
    ∧ (∃ done rest values,
        Replay.caller.TakesUpTo pointing pointedScene pointed done rest values
        ∧ (rest = [] ↔
            (Replay.caller.takeOne pointing pointedScene pointed).1 = .ok () ∨ Targetless pointing))
    ∧ (Replay.caller.takeOne pointing pointedScene pointed).1 =
        .error (.failed "$.gone: field 'gone' not found")
    ∧ ((Replay.caller.takeOne pointing pointedScene pointed).2.environment.bindings.map
        fun b => (b.1, b.2.display)) = [("key", "left"), ("value", "7")] := by
  have hstandard : OrderedMap.get? standard pointing.key =
      some (ofTaker jsonPath : Extractor Replay) := rfl
  have hregistry : Replay.caller.registry.extractor pointing.key = .ok (ofTaker jsonPath) := rfl
  exact ⟨hstandard, hregistry,
    takeOne_targets Replay.caller ⟨"point", [], none, none, .empty⟩ none (some signpost) pointing
      pointed hstandard hregistry,
    by decide +kernel, by decide +kernel⟩

/-- A rule that stores the body of a response in a directory that is not there. -/
def misdirected : Rule :=
  ⟨.extraction, "text", .string "@missing/out.txt", false, "misdirect"⟩

/-- **For success it is not enough that all targets are bound.** A redirect has none, and fails. -/
theorem not_succeedsWithTargets_misdirected :
    ¬ ∃ done rest values,
      Replay.caller.TakesUpTo misdirected pointedScene pointed done rest values
      ∧ (rest = [] ↔ (Replay.caller.takeOne misdirected pointedScene pointed).1 = .ok ()) := by
  rintro ⟨done, rest, values, htakes, hsucceeds⟩
  have hnone : done ++ rest = [] := htakes.targets.symm.trans rfl
  have hresult : (Replay.caller.takeOne misdirected pointedScene pointed).1 =
      .error (.failed "cannot write missing/out.txt: No such file or directory (os error 2)") := by
    decide +kernel
  rw [hsucceeds.1 (List.append_eq_nil_iff.1 hnone).2] at hresult
  cases hresult

end Caller

end RestSuite
