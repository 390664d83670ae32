import RestSuite.Proofs.Sequencing
import RestSuite.Script.Resolved

/-!
# Resolved rules carry their stage

A rule remembers the section it was read from. Layers are only put on top of each other, so what a
resolved script holds as preconditions, extractors and assertions was read as such, wherever in the
chain it comes from: `Script.resolve_staged`.
-/

namespace RestSuite

/-- Every rule of the layer belongs to the section it stands in. -/
structure Layer.Staged (l : Layer) : Prop where
  preconditions : ∀ r ∈ l.preconditions, r.stage = .precondition
  extractors : ∀ r ∈ l.extractors, r.stage = .extraction
  assertions : ∀ r ∈ l.assertions, r.stage = .assertion

theorem Layer.staged_empty : Layer.empty.Staged := by
  constructor <;> simp [Layer.empty]

theorem Layer.Staged.append {a b : Layer} (ha : a.Staged) (hb : b.Staged) :
    (a.append b).Staged where
  preconditions := List.forall_mem_append.2 ⟨ha.preconditions, hb.preconditions⟩
  extractors := List.forall_mem_append.2 ⟨ha.extractors, hb.extractors⟩
  assertions := List.forall_mem_append.2 ⟨ha.assertions, hb.assertions⟩

/-! ## Reading rules -/

/-- A rule is read for the stage that was asked for. -/
theorem Rule.stage_of_ofJson {stage : Stage} {node : Json} {source : String} {rule : Rule}
    (h : Rule.ofJson stage node source = .ok rule) : rule.stage = stage := by
  cases node with
  | string expression => cases h; rfl
  | object members =>
    unfold Rule.ofJson at h
    dsimp only at h
    -- whatever the flag is, there is exactly one other member, or no rule comes out
    split at h
    all_goals
      obtain ⟨required, -, h⟩ := bind_eq_ok_iff.1 h
      split at h
      · cases h
      · cases h; rfl
      · cases h
  | _ => cases h

/-- So is every rule of a section. -/
theorem Script.stage_of_ownRules {s : Script} {stage : Stage} {rules : List Rule}
    (h : s.ownRules stage = .ok rules) : ∀ r ∈ rules, r.stage = stage := by
  unfold Script.ownRules at h
  split at h
  · cases h; simp
  · cases h; simp
  · next nodes hfield =>
    have hread := mapM_eq_ok_iff.1 h
    clear h hfield
    induction hread with
    | nil => simp
    | cons hrule _ ih => exact List.forall_mem_cons.2 ⟨Rule.stage_of_ofJson hrule, ih⟩
  · obtain ⟨rule, hrule, h⟩ := bind_eq_ok_iff.1 h
    cases h
    simpa using Rule.stage_of_ofJson hrule

theorem Script.layer_staged {s : Script} {l : Layer} (h : s.layer = .ok l) : l.Staged := by
  unfold Script.layer at h
  obtain ⟨headers, -, h⟩ := bind_eq_ok_iff.1 h
  obtain ⟨env, -, h⟩ := bind_eq_ok_iff.1 h
  obtain ⟨preconditions, hpre, h⟩ := bind_eq_ok_iff.1 h
  obtain ⟨extractors, hext, h⟩ := bind_eq_ok_iff.1 h
  obtain ⟨assertions, hassert, h⟩ := bind_eq_ok_iff.1 h
  cases h
  exact ⟨stage_of_ownRules hpre, stage_of_ownRules hext, stage_of_ownRules hassert⟩

/-! ## Combining layers -/

theorem combineLayers_staged {scripts : List Script} {below l : Layer} (hbelow : below.Staged)
    (h : combineLayers below scripts = .ok l) : l.Staged := by
  induction scripts generalizing below with
  | nil => cases h; exact hbelow
  | cons s rest ih =>
    unfold combineLayers at h
    split at h
    · cases h
    · next layer hlayer => exact ih (hbelow.append (Script.layer_staged hlayer)) h

/-- **A resolved script holds every rule in the section of its stage.** -/
theorem Script.resolve_staged {s : Script} {t : Templates} {b : Bindings} {r : ResolvedScript}
    (h : s.resolve t b = .ok r) : r.layer.Staged := by
  unfold Script.resolve at h
  obtain ⟨chain, -, h⟩ := bind_eq_ok_iff.1 h
  obtain ⟨line, -, h⟩ := bind_eq_ok_iff.1 h
  obtain ⟨layer, hlayer, h⟩ := bind_eq_ok_iff.1 h
  cases h
  exact combineLayers_staged Layer.staged_empty (mapError_eq_ok_iff.1 hlayer)

end RestSuite
