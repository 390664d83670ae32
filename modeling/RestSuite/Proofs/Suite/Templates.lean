import RestSuite.Proofs.Script.Registration
import RestSuite.Proofs.Suite.Course
import RestSuite.Proofs.Suite.Reachable
import RestSuite.Proofs.Suite.Success

/-!
# The templates of a suite

A template is registered when it resolves, against the templates that are there at this time. Later
ones come in above and below it, or in its place. This module shows that it stays resolvable, as long
as template fields are written out and the implicit template has none.

* **`Suite.Taken.templates`** — what a node does to the templates.
* **`Suite.Taken.settled`** — a plain node keeps them settled.
* **`Suite.Resolvable`** — what that means for those who resolve scripts.
* **`Suite.reachableBy_resolvable`** — it is so in every suite that plain nodes lead to.
-/

namespace RestSuite.Suite

variable {σ : Type} {s t : Suite σ} {node : Json} {before : List Json} {r : Suite σ × Bool}

/-- If the node is a script, its template field is plain. -/
def PlainNode (node : Json) : Prop :=
  ∀ script, Script.ofJson node = .ok script → script.Plain

/-- A node leaves the templates as they are, or it is a template that resolves and is registered. -/
theorem Taken.templates (h : s.Taken node r) :
    r.1.templates = s.templates
      ∨ ∃ template resolved, Script.ofJson node = .ok template ∧ template.isTemplate = true
        ∧ template.resolve s.templates s.bindings = .ok resolved
        ∧ r.1.templates = s.templates.register template := by
  cases h with
  | registered hread htemplate hresolve => exact .inr ⟨_, _, hread, htemplate, hresolve, rfl⟩
  | _ => exact .inl rfl

/-- **A plain node keeps the templates settled.** -/
theorem Taken.settled (h : s.Taken node r) (hnode : PlainNode node)
    (hsettled : s.templates.Settled) : r.1.templates.Settled := by
  rcases h.templates with hsame | ⟨template, resolved, hread, htemplate, hresolve, hnew⟩
  · rw [hsame]
    exact hsettled
  · rw [hnew]
    exact hsettled.register htemplate (hnode template hread) hresolve

/-- So do plain nodes that are taken one after the other. -/
theorem Proceeds.settled (h : s.Proceeds before t) (hnodes : ∀ node ∈ before, PlainNode node)
    (hsettled : s.templates.Settled) : t.templates.Settled := by
  induction h with
  | nil s => exact hsettled
  | @cons s s₁ s₂ node rest _ htake _ ih =>
    obtain ⟨hnode, hrest⟩ := List.forall_mem_cons.1 hnodes
    have htaken := s.poll.take_taken node
    rw [htake] at htaken
    exact ih hrest (htaken.settled hnode hsettled)

/-- **The templates of a suite are settled**, if all nodes that it has run are plain. -/
theorem ReachableBy.settled (h : s.ReachableBy PlainNode) : s.templates.Settled := by
  induction h with
  | created registry services disk host settings =>
    obtain ⟨baseUrl, notices, hcreated⟩ := create_eq registry services disk host settings
    rw [hcreated]
    exact Templates.settled_empty
  | @operated s _ op hnodes ih =>
    cases op with
    | execute document =>
      exact execute_induction_mem (P := fun s => s.templates.Settled) (fun _ h => h)
        (fun s node hmem => (s.take_taken node).settled (hnodes node hmem)) (fun _ h => h) ih
    | configure settings =>
      obtain ⟨baseUrl, notices, hconfigured⟩ := s.configure_eq settings
      rw [operate, hconfigured]
      exact ih
    | _ => exact ih

/-- In this suite every template resolves. No plain script that can be run is in a cycle, and one that
is well formed itself resolves or names a template that there is not. -/
structure Resolvable (s : Suite σ) : Prop where
  templates : ∀ name template, OrderedMap.get? s.templates name = some template →
    ∃ resolved, template.resolve s.templates s.bindings = .ok resolved
  acyclic : ∀ script : Script, script.Plain → script.isTemplate = false → ∀ names,
    script.resolve s.templates s.bindings ≠ .error (.configuration (.cyclicTemplate names))
  missing : ∀ script : Script, script.Plain → script.isTemplate = false → script.WellFormed →
    ∀ e, script.resolve s.templates s.bindings = .error e →
      ∃ name, s.templates.Dangles script name ∧ e = .configuration (.noSuchTemplate name)

theorem resolvable_of_settled (h : s.templates.Settled) : s.Resolvable where
  templates := by
    intro name template hget
    refine h.resolve ?_ s.bindings
    unfold Templates.Registered
    rw [h.keyed name template hget]
    exact hget
  acyclic script hplain hscript := (h.resolve_script hplain hscript s.bindings).1
  missing := by
    intro script hplain hscript hwell e herror
    rcases (h.resolve_script hplain hscript s.bindings).2 hwell with ⟨resolved, hok⟩ | hmissing
    · cases hok.symm.trans herror
    · obtain ⟨name, hdangles, hname⟩ := hmissing
      cases hname.symm.trans herror
      exact ⟨name, hdangles, rfl⟩

/-- **Registered templates stay resolvable.** Let all nodes that a suite has run be plain: if they are
scripts, their template fields hold no placeholders, and a definition of the implicit template has
none. Then every template of the suite resolves against the templates and variables of the suite, no
script is found in a cycle, and a well-formed script can only miss the template that it names itself.
All this also holds in the middle of a further run, wherever it takes a node behind plain nodes. -/
theorem reachableBy_resolvable (h : s.ReachableBy PlainNode) :
    s.Resolvable ∧ ∀ before t, (∀ node ∈ before, PlainNode node) → s.Reaches before t →
      t.Resolvable := by
  refine ⟨resolvable_of_settled h.settled, ?_⟩
  rintro before t hnodes ⟨hproceeds, -⟩
  exact resolvable_of_settled (hproceeds.settled hnodes h.settled)

/-- A template, one below it, the implicit template, and another template in place of the second. -/
def redefiningDocument : Json :=
  .array [
    .object [("name", .string "base.template"), ("GET", .string "/base")],
    .object [("name", .string "middle.template"), ("template", .string "base")],
    .object [("name", .string "implicit.template"), ("headers", .object [("Accept", .null)])],
    .object [("name", .string "middle.template"), ("POST", .string "/middle")]]

/-- All of them resolve afterwards. -/
theorem resolvable_redefining :
    (replaySuite.execute redefiningDocument).ReachableBy PlainNode
    ∧ (replaySuite.execute redefiningDocument).Resolvable := by
  have hwithout : ∀ {node script}, Script.ofJson node = .ok script → script.template = none →
      PlainNode node := by
    rintro node script hread hnone script' hread'
    cases hread.symm.trans hread'
    refine ⟨?_, fun _ => hnone⟩
    intro raw hraw
    cases hnone.symm.trans hraw
  have hbelow : PlainNode
      (.object [("name", .string "middle.template"), ("template", .string "base")]) := by
    rintro script hread
    cases hread
    refine ⟨?_, fun hname => absurd hname (by decide)⟩
    rintro raw hraw
    cases hraw
    decide +kernel
  have hnodes : ∀ node ∈ nodes redefiningDocument, PlainNode node := by
    unfold redefiningDocument nodes
    simp only [List.forall_mem_cons]
    exact ⟨hwithout rfl rfl, hbelow, hwithout rfl rfl, hwithout rfl rfl, List.forall_mem_nil _⟩
  have hreachable : (replaySuite.execute redefiningDocument).ReachableBy PlainNode :=
    .operated (.created .standard Replay.services .empty ⟨[], []⟩ .standard)
      (.execute redefiningDocument) hnodes
  exact ⟨hreachable, (reachableBy_resolvable hreachable).1⟩

end RestSuite.Suite
