import RestSuite.Proofs.Suite.Steps

/-!
# Suites that can be reached

A suite is created and then handled by its host, who runs documents and does a few other things
between the runs. Meanwhile the world outside can change in any way.

* **`Suite.Operation`**, **`Suite.operate`** — what is done with a suite, one thing at a time.
* **`Suite.ReachableBy`** — what comes of any number of them, if every node that is run has a property.
* **`Suite.Reachable`** — what comes of them, whatever nodes are run.
* **`Suite.Reachable.forall_history`** — what nodes keep true of all calls in a history is true of
  every history.
-/

namespace RestSuite.Suite

variable {σ : Type} {s t : Suite σ}

/-! ## What is done with a suite -/

/-- What a host does with a suite, and what happens to it outside of runs. -/
inductive Operation (σ : Type) where
  | execute (document : Json)
  | bind (name : String) (value : Json)
  | unbind (name : String)
  | cancel
  | reset
  | configure (settings : Settings)
  /-- Behaviors and services are replaced. -/
  | equip (registry : Registry σ) (services : Services σ)
  /-- Files and what lies behind the services change. -/
  | outside (disk : Disk) (host : σ)

/-- Does an operation. -/
def operate (s : Suite σ) : Operation σ → Suite σ
  | .execute document => s.execute document
  | .bind name value => s.bind name value
  | .unbind name => s.unbind name
  | .cancel => s.cancel
  | .reset => s.reset
  | .configure settings => s.configure settings
  | .equip registry services => { s with registry := registry, services := services }
  | .outside disk host => { s with world := { s.world with disk := disk, host := host } }

/-- The nodes that an operation runs: those of a document. -/
def Operation.nodes : Operation σ → List Json
  | .execute document => Suite.nodes document
  | _ => []

/-- Other settings come with a base URL or with none, and the operator may be told. Nothing else
changes. -/
theorem configure_eq (s : Suite σ) (settings : Settings) :
    ∃ baseUrl notices, s.configure settings =
      { s with
        settings := settings
        baseUrl := baseUrl
        world := { s.world with notices := notices } } := by
  unfold configure
  split
  · exact ⟨_, _, rfl⟩
  · split <;> exact ⟨_, _, rfl⟩

/-- A new suite has done nothing yet. -/
theorem create_eq (registry : Registry σ) (services : Services σ) (disk : Disk) (host : σ)
    (settings : Settings) : ∃ baseUrl notices, create registry services disk host settings =
      ⟨registry, services, settings, baseUrl, { World.start disk host with notices := notices },
        [], [], []⟩ :=
  configure_eq _ settings

/-! ## What comes of it -/

/-- The suites that come of a new one where every node of every document has a property. -/
inductive ReachableBy (P : Json → Prop) : Suite σ → Prop where
  | created (registry : Registry σ) (services : Services σ) (disk : Disk) (host : σ)
      (settings : Settings) : ReachableBy P (create registry services disk host settings)
  | operated {s : Suite σ} (h : ReachableBy P s) (op : Operation σ)
      (hnodes : ∀ node ∈ op.nodes, P node) : ReachableBy P (s.operate op)

/-- The suites that come of a new one, whatever documents are run. -/
abbrev Reachable (s : Suite σ) : Prop :=
  s.ReachableBy fun _ => True

theorem Reachable.operate (h : s.Reachable) (op : Operation σ) : (s.operate op).Reachable :=
  .operated h op fun _ _ => trivial

/-- Running the document of a text is running a document. -/
theorem Reachable.executeText (h : s.Reachable) {text : String}
    (hrun : s.executeText text = .ok t) : t.Reachable := by
  unfold Suite.executeText at hrun
  split at hrun
  · cases hrun
    exact h.operate (.execute _)
  · cases hrun

/-- And so is running the document of a file. -/
theorem Reachable.executeFile (h : s.Reachable) {path : String}
    (hrun : s.executeFile path = .ok t) : t.Reachable := by
  unfold Suite.executeFile at hrun
  split at hrun
  · exact h.executeText hrun
  · cases hrun

/-- **What holds of every history.** A property of calls that taking a node keeps for the whole
history holds of all calls that a suite has ever made and not forgotten. -/
theorem Reachable.forall_history {P : Call → Prop} (h : s.Reachable)
    (htake : ∀ (t : Suite σ) node, (∀ call ∈ t.history, P call) →
      ∀ call ∈ (t.take node).1.history, P call) : ∀ call ∈ s.history, P call := by
  induction h with
  | created registry services disk host settings =>
    obtain ⟨baseUrl, notices, hcreated⟩ := create_eq registry services disk host settings
    rw [hcreated]
    exact List.forall_mem_nil P
  | @operated s _ op _ ih =>
    cases op with
    | execute document =>
      exact execute_induction (P := fun t => ∀ call ∈ t.history, P call) (fun _ h => h) htake
        (fun _ h => h) document ih
    | configure settings =>
      obtain ⟨baseUrl, notices, hconfigured⟩ := s.configure_eq settings
      rw [Suite.operate, hconfigured]
      exact ih
    | reset => exact List.forall_mem_nil P
    | _ => exact ih

end RestSuite.Suite
