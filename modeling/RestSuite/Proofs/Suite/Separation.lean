import RestSuite.Proofs.Suite.Isolation
import RestSuite.Proofs.Suite.Templates

/-!
# Templates and scripts stay apart

Whether a script is a template is read off the end of its name, in several places: where a node is
taken, where a template is looked for, and where the call of a node that is no script gets its name.
They agree, so that templates are inherited from and never run, and scripts are run and never inherited
from.

* **`Suite.NamesTemplate`** — a name that ends as the names of templates do.
* **`Suite.Separated`** — registered templates, scripts that were run and calls, each under names of
  their own kind.
* **`Suite.Taken.separated`** — a node keeps them apart.
* **`Suite.Taken.spares`** — a node with the name of a template is not run.
* **`Suite.reachable_separated`** — templates and scripts are apart in every suite that can be reached.
-/

namespace RestSuite

variable {σ : Type}

/-! ## Maps and names -/

/-- What stands in a map behind a change was put there or was there before. -/
theorem OrderedMap.mem_put {α : Type} {m : OrderedMap α} {key : String} {value : α}
    {entry : String × α} (h : entry ∈ m.put key value) : entry = (key, value) ∨ entry ∈ m := by
  induction m with
  | nil => exact .inl (List.mem_singleton.1 h)
  | cons first rest ih =>
    obtain ⟨k, v⟩ := first
    unfold OrderedMap.put at h
    split at h
    · exact (List.mem_cons.1 h).imp_right (List.mem_cons_of_mem _)
    · rcases List.mem_cons.1 h with rfl | hrest
      · exact .inr List.mem_cons_self
      · exact (ih hrest).imp_right (List.mem_cons_of_mem _)

namespace Suite

/-- The name ends as the names of templates do. -/
def NamesTemplate (name : String) : Prop :=
  Script.endsIn name Script.templateSuffix = true

instance (name : String) : Decidable (NamesTemplate name) :=
  inferInstanceAs (Decidable (_ = true))

end Suite

/-! ## Ancestors -/

/-- Every entry of the registry is a template, under its own name. -/
def Templates.Proper (t : Templates) : Prop :=
  ∀ name template, (name, template) ∈ t → Suite.NamesTemplate name ∧ template.name = name

namespace Templates

variable {t : Templates} {b : Bindings} {script : Script} {resolved : ResolvedScript}

theorem Proper.keyed (h : t.Proper) : t.Keyed :=
  fun name template hget => (h name template (OrderedMap.mem_of_get? hget)).2

theorem Proper.register (h : t.Proper) (htemplate : script.isTemplate = true) :
    (t.register script).Proper := by
  intro name template hmem
  rcases OrderedMap.mem_put hmem with heq | hmem
  · cases heq
    exact ⟨htemplate, rfl⟩
  · exact h name template hmem

theorem registered_of_chain (hkeyed : t.Keyed) {above : List Script}
    (h : t.chain b script = .ok (above ++ [script])) : ∀ x ∈ above, t.Registered x := by
  rcases chain_concat_cases hkeyed h with ⟨rfl, -⟩ | ⟨parent, hparent, hchain, -⟩
  · exact List.forall_mem_nil _
  · -- what stands above the script is the chain of its parent, which is registered itself
    exact (lineage_of_chain hkeyed hchain).forall_of_registered hkeyed
      (hparent.registered hkeyed) fun _ h => h

/-- **Every ancestor of a script is a registered template.** -/
theorem Proper.ancestor (h : t.Proper) (hresolve : script.resolve t b = .ok resolved) :
    ∀ name ∈ resolved.chain, ∃ template, OrderedMap.get? t name = some template
      ∧ template.name = name ∧ template.isTemplate = true := by
  obtain ⟨path, line?, layer, hchain, -, -, rfl⟩ := Script.resolve_eq_ok_iff.1 hresolve
  obtain ⟨above, rfl⟩ := chain_concat h.keyed hchain
  intro name hname
  dsimp only at hname
  rw [List.dropLast_concat] at hname
  obtain ⟨x, hx, rfl⟩ := List.mem_map.1 hname
  have hregistered : OrderedMap.get? t x.name = some x := registered_of_chain h.keyed hchain x hx
  exact ⟨x, hregistered, rfl, (h _ _ (OrderedMap.mem_of_get? hregistered)).1⟩

end Templates

namespace Suite

variable {s t : Suite σ} {node : Json} {r : Suite σ × Bool} {before : List Json}

/-! ## The invariant -/

/-- Templates and scripts are apart: in the registry, among the scripts that were run, above every
script that resolves, and in the history. -/
structure Separated (s : Suite σ) : Prop where
  /-- The names of the registry are those of its templates, and end as such. -/
  templates : ∀ name template, (name, template) ∈ s.templates →
    NamesTemplate name ∧ template.name = name
  /-- No script that was run has the name of a template. -/
  scripts : ∀ name ∈ OrderedMap.keys s.scripts, ¬ NamesTemplate name
  /-- The ancestors of a script are registered templates, and none of them was ever run. -/
  ancestors : ∀ (script : Script) b resolved, script.resolve s.templates b = .ok resolved →
    ∀ name ∈ resolved.chain, name ∉ OrderedMap.keys s.scripts
      ∧ ∃ template, OrderedMap.get? s.templates name = some template ∧ template.name = name
        ∧ template.isTemplate = true
  /-- Of a call with the name of a template nothing was done. -/
  history : ∀ call ∈ s.history, NamesTemplate call.script → call.IsRejection call.script

/-- What can be said of ancestors follows from the rest. -/
theorem separated_of (htemplates : s.templates.Proper)
    (hscripts : ∀ name ∈ OrderedMap.keys s.scripts, ¬ NamesTemplate name)
    (hhistory : ∀ call ∈ s.history, NamesTemplate call.script → call.IsRejection call.script) :
    s.Separated where
  templates := htemplates
  scripts := hscripts
  history := hhistory
  ancestors script b resolved hresolve name hname := by
    obtain ⟨template, hget, rfl, htemplate⟩ := htemplates.ancestor hresolve name hname
    exact ⟨fun hrun => hscripts _ hrun htemplate, template, hget, rfl, htemplate⟩

/-- Nothing changes but the history, by calls that are forgotten or of which nothing was done. -/
theorem Separated.congr (h : s.Separated) (htemplates : t.templates = s.templates)
    (hscripts : t.scripts = s.scripts)
    (hhistory : ∀ call ∈ t.history, call ∈ s.history ∨ call.IsRejection call.script) :
    t.Separated := by
  refine separated_of ?_ ?_ fun call hcall hname => ?_
  · rw [htemplates]
    exact h.templates
  · rw [hscripts]
    exact h.scripts
  · rcases hhistory call hcall with hold | hrejected
    · exact h.history call hold hname
    · exact hrejected

/-! ## Nodes -/

theorem mem_or_isRejection {calls : List Call} {script : String} {e : CallError} :
    ∀ call ∈ calls ++ [Call.rejected script e], call ∈ calls ∨ call.IsRejection call.script := by
  intro call hcall
  refine (List.mem_append.1 hcall).imp_right fun hnew => ?_
  rw [List.mem_singleton.1 hnew]
  exact Call.isRejection_rejected script e

theorem Separated.entering (h : s.Separated) {script : Script} {resolved : ResolvedScript}
    (hread : Script.ofJson node = .ok script) (hscript : script.isTemplate = false)
    (hresolve : script.resolve s.templates s.bindings = .ok resolved) :
    (s.entering script resolved).Separated := by
  have hname : ¬ NamesTemplate script.name :=
    fun hname => Bool.false_ne_true (hscript.symm.trans hname)
  have hcall : (s.outcome script resolved).1.reported.script = script.name := by
    rw [outcome_script hread hresolve, callName_of_ok hread]
  refine separated_of h.templates ?_ ?_
  · intro name hmem
    have hkeys : name ∈ OrderedMap.keys (OrderedMap.put s.scripts script.name script) := hmem
    obtain ⟨⟨name, value⟩, hentry, rfl⟩ := List.mem_map.1 hkeys
    rcases OrderedMap.mem_put hentry with heq | hold
    · cases heq
      exact hname
    · exact h.scripts _ (List.mem_map_of_mem hold)
  · show ∀ call ∈ s.history ++ [(s.outcome script resolved).1.reported],
      NamesTemplate call.script → call.IsRejection call.script
    refine List.forall_mem_append.2 ⟨h.history, List.forall_mem_singleton.2 fun htemplate => ?_⟩
    -- the call has the name of its script, which is no template
    rw [hcall] at htemplate
    exact absurd htemplate hname

/-- **A node keeps templates and scripts apart.** -/
theorem Taken.separated (h : s.Taken node r) (hs : s.Separated) : r.1.Separated := by
  cases h with
  | malformed _ => exact hs.congr rfl rfl mem_or_isRejection
  | unresolved _ _ => exact hs.congr rfl rfl mem_or_isRejection
  | registered _ htemplate _ =>
    exact separated_of (Templates.Proper.register hs.templates htemplate) hs.scripts hs.history
  | wentOn hread hscript hresolve _ => exact hs.entering hread hscript hresolve
  | endedEarly hread hscript hresolve _ =>
    exact (hs.entering hread hscript hresolve).congr rfl rfl fun _ => .inl

/-- Between two suites no script was run: nothing was sent, nothing was asked of the services, no file
was written, and what was published is at most the record of a call. -/
structure Spares (s t : Suite σ) : Prop where
  scripts : t.scripts = s.scripts
  sent : t.world.sent = s.world.sent
  host : t.world.host = s.world.host
  disk : t.world.disk = s.world.disk
  environment : t.world.environment = s.world.environment
    ∨ ∃ index call, t.world.environment = s.world.environment.publish (.completed index call)

/-- **A node with the name of a template is not run**, whether it is accepted or turned away. -/
theorem Taken.spares (h : s.Taken node r) (hname : NamesTemplate (callName node)) :
    s.Spares r.1 := by
  have hscript : ∀ {script}, Script.ofJson node = .ok script → script.isTemplate ≠ false := by
    intro script hread hfalse
    rw [callName_of_ok hread] at hname
    exact Bool.false_ne_true (hfalse.symm.trans hname)
  cases h with
  | malformed _ => exact ⟨rfl, rfl, rfl, rfl, .inr ⟨_, _, rfl⟩⟩
  | unresolved _ _ => exact ⟨rfl, rfl, rfl, rfl, .inr ⟨_, _, rfl⟩⟩
  | registered _ _ _ => exact ⟨rfl, rfl, rfl, rfl, .inl rfl⟩
  | wentOn hread hfalse _ _ => exact absurd hfalse (hscript hread)
  | endedEarly hread hfalse _ _ => exact absurd hfalse (hscript hread)

/-! ## Runs -/

theorem Proceeds.separated (h : s.Proceeds before t) (hs : s.Separated) : t.Separated := by
  induction h with
  | nil s => exact hs
  | @cons s s₁ s₂ node rest _ htake _ ih =>
    have htaken := s.poll.take_taken node
    rw [htake] at htaken
    exact ih (htaken.separated (hs.congr rfl rfl fun _ => .inl))

theorem Reaches.separated (h : s.Reaches before t) (hs : s.Separated) : t.Separated := by
  obtain ⟨hproceeds, -⟩ := h
  exact (hproceeds.separated hs).congr rfl rfl fun _ => .inl

theorem Reachable.separated (h : s.Reachable) : s.Separated := by
  induction h with
  | created registry services disk host settings =>
    obtain ⟨baseUrl, notices, hcreated⟩ := create_eq registry services disk host settings
    rw [hcreated]
    exact separated_of nofun (List.forall_mem_nil _) (List.forall_mem_nil _)
  | @operated s _ op _ ih =>
    cases op with
    | execute document =>
      exact execute_induction (P := Separated) (fun _ h => h.congr rfl rfl fun _ => .inl)
        (fun s node => (s.take_taken node).separated) (fun _ h => h.congr rfl rfl fun _ => .inl)
        document ih
    | configure settings =>
      obtain ⟨baseUrl, notices, hconfigured⟩ := s.configure_eq settings
      rw [Suite.operate, hconfigured]
      exact ih.congr rfl rfl fun _ => .inl
    | reset => exact ih.congr rfl rfl (List.forall_mem_nil _)
    | _ => exact ih.congr rfl rfl fun _ => .inl

theorem newCalls_leaves (s : Suite σ) (document : Json) :
    List.Forall₂ Turn.Leaves ((s.turns (Suite.nodes document)).filter fun turn => !turn.defines)
      (newCalls s (s.execute document)) := by
  obtain ⟨calls, hhistory, hleaves⟩ := s.takeAll_records (Suite.nodes document)
  unfold newCalls
  rw [execute_history, hhistory, List.drop_left]
  exact hleaves

/-- **Templates are never run, and scripts are never inherited from.** In every suite that can be
reached, and wherever a run has come to in it, the registry holds templates under their own names, no
script that was run has the name of a template, the ancestors of every script that resolves are
registered templates, and every call with the name of a template failed with an error and without a
request. The calls that a run adds are those of nodes under whose names they are entered, and a node
with the name of a template sends nothing, binds nothing and runs nothing. -/
theorem reachable_separated (h : s.Reachable) :
    s.Separated
    ∧ (∀ before t, s.Reaches before t → t.Separated ∧ ∀ node, (t.take node).1.Separated)
    ∧ (∀ document, List.Forall₂ Turn.Leaves
        ((s.turns (Suite.nodes document)).filter fun turn => !turn.defines)
        (newCalls s (s.execute document)))
    ∧ ∀ (t : Suite σ) node, NamesTemplate (callName node) → t.Spares (t.take node).1 := by
  have hs := h.separated
  refine ⟨hs, ?_, s.newCalls_leaves, fun t node => (t.take_taken node).spares⟩
  intro before t hreaches
  have ht := hreaches.separated hs
  exact ⟨ht, fun node => (t.take_taken node).separated ht⟩

/-- A template, one that is turned away, and two scripts. -/
theorem reachable_separated_mixed :
    (replaySuite.execute mixedDocument).Reachable ∧ (replaySuite.execute mixedDocument).Separated
    ∧ OrderedMap.keys (replaySuite.execute mixedDocument).templates = ["base.template"]
    ∧ (((replaySuite.execute mixedDocument).history.map Call.script).filter fun name =>
        NamesTemplate name) = ["lost.template"] := by
  have hreachable : (replaySuite.execute mixedDocument).Reachable :=
    Reachable.operate (.created .standard Replay.services .empty ⟨[], []⟩ .standard)
      (.execute mixedDocument)
  obtain ⟨hseparated, -⟩ := reachable_separated hreachable
  exact ⟨hreachable, hseparated, by decide +kernel, by decide +kernel⟩

end Suite

end RestSuite
