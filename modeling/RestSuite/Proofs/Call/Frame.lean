import RestSuite.Proofs.Call.Course

/-!
# What a call leaves as it is

Apart from its one request, a call changes the world by a handful of operations: it looks at the
flag, binds variables, adds notices and takes in what behaviors do. A relation between worlds that
each of these keeps is kept by the whole call, up to the moment of sending and from then on.

* **`World.Stable`** — a relation that every single change of a world keeps.
* **`Quiet`** — a relation that is kept by everything but sending. Stable relations are.
* **`Carries`** — a call seen from the transport: it sends nothing, or one request, and what its
  record says of that.
* **`Ends.carries`** — every call is one or the other, whatever quiet relation is asked for.
* **`Quiet.run`** — a quiet relation that sending keeps is kept by a call.
-/

namespace RestSuite

variable {σ : Type}

/-- No answer of the host takes a stop back. -/
theorem World.stopped_settle {α : Type} {w : World σ} (r : Reply σ α) (h : w.stopped = true) :
    (w.settle r).stopped = true := by
  unfold World.settle
  rw [h]
  rfl

variable {R : World σ → World σ → Prop}

/-- A relation between the world before and the world after, which every single change keeps, whatever
the host does. -/
structure World.Stable (R : World σ → World σ → Prop) : Prop where
  refl : ∀ w, R w w
  trans : ∀ {w₁ w₂ w₃}, R w₁ w₂ → R w₂ w₃ → R w₁ w₃
  settle : ∀ {α : Type} (w : World σ) (r : Reply σ α), R w (w.settle r)
  note : ∀ (w : World σ) n, R w (w.note n)
  bind : ∀ (w : World σ) name value, R w (w.bind name value)
  unbind : ∀ (w : World σ) name, R w (w.unbind name)
  disk : ∀ (w : World σ) disk, R w { w with disk := disk }

/-- The changes that an extractor asks for are made one by one. Induction on the changes. -/
theorem World.Stable.apply (hR : World.Stable R) (w : World σ) (x : Extraction) :
    R w (w.apply x) := by
  obtain ⟨edits, disk, result⟩ := x
  induction edits generalizing w with
  | nil => exact hR.disk w disk
  | cons edit rest ih =>
    cases edit with
    | bind name value => exact hR.trans (hR.bind w name value) (ih (w.bind name value))
    | unbind name => exact hR.trans (hR.unbind w name) (ih (w.unbind name))

namespace Caller

variable {c : Caller σ} {s : ResolvedScript}

/-- A relation between the world before and the world after, which everything that a call does apart
from sending keeps. -/
structure Quiet (c : Caller σ) (R : World σ → World σ → Prop) : Prop where
  refl : ∀ w, R w w
  trans : ∀ {w₁ w₂ w₃}, R w₁ w₂ → R w₂ w₃ → R w₁ w₃
  poll : ∀ w : World σ, R w (w.poll c.services)
  note : ∀ (w : World σ) n, R w (w.note n)
  bind : ∀ (w : World σ) name value, R w (w.bind name value)
  check : ∀ stage rule scene w, R w (c.check stage rule scene w).2
  takeOne : ∀ rule scene w, R w (c.takeOne rule scene w).2

/-- What every single change keeps is kept by whatever behaviors do. -/
theorem quiet_of_stable (hR : World.Stable R) (c : Caller σ) : c.Quiet R where
  refl := hR.refl
  trans := hR.trans
  poll w := hR.settle w _
  note := hR.note
  bind := hR.bind
  check stage rule scene w := by
    unfold Caller.check
    split
    · exact hR.refl w
    · exact hR.settle w _
  takeOne rule scene w := by
    unfold Caller.takeOne
    split
    · exact hR.refl w
    · exact hR.trans (hR.settle w _) (hR.apply _ _)

namespace Quiet

/-! ## Stages -/

theorem bindEnv (hR : c.Quiet R) (env : List (String × Json)) (w : World σ) :
    R w (c.bindEnv w env).2 := by
  induction env generalizing w with
  | nil => exact hR.refl w
  | cons head rest ih =>
    obtain ⟨name, value⟩ := head
    unfold Caller.bindEnv
    cases hvalue : c.expandValue w value with
    | error e => exact hR.refl w
    | ok expanded => exact hR.trans (hR.bind w name expanded) (ih (w.bind name expanded))

/-- A request that is built, or cannot be, has only bound variables. -/
theorem build (hR : c.Quiet R) {w w' : World σ} {result : Except CallError Request}
    (h : c.build s w = (result, w')) : R w w' := by
  have hbind := hR.bindEnv s.layer.env w
  unfold Caller.build at h
  split at h
  · next heq =>
    rw [heq] at hbind
    cases h
    exact hbind
  · next heq =>
    rw [heq] at hbind
    cases h
    exact hbind

theorem of_check (hR : c.Quiet R) {stage : Stage} {rule : Rule} {scene : Scene} {w w' : World σ}
    {result : CheckResult} (h : c.check stage rule scene w = (result, w')) : R w w' := by
  have hcheck := hR.check stage rule scene w
  rw [h] at hcheck
  exact hcheck

variable {stage : Stage} {request : Option Request} {response : Option Response} {w w' : World σ}
  {rules : List Rule} {entries : List LedgerEntry}

theorem of_ran (hR : c.Quiet R) (h : c.Ran stage s request response w rules entries w') :
    R w w' := by
  induction h with
  | nil w => exact hR.refl w
  | passed hcheck _ ih => exact hR.trans (hR.of_check hcheck) ih
  | failed _ hcheck _ ih => exact hR.trans (hR.of_check hcheck) ih

theorem of_checked (hR : c.Quiet R) {fin : StageEnd}
    (h : c.Checked stage s request response w rules fin entries w') : R w w' := by
  cases h with
  | completed hran => exact hR.of_ran hran
  | refused _ _ hran hcheck => exact hR.trans (hR.of_ran hran) (hR.of_check hcheck)
  | halted _ hran hcheck => exact hR.trans (hR.of_ran hran) (hR.of_check hcheck)

theorem takeAll (hR : c.Quiet R) (s : ResolvedScript) (request : Option Request)
    (response : Option Response) (rules : List Rule) (messages : List String) (w : World σ) :
    R w (c.takeAll s request response rules messages w).2.2 := by
  induction rules generalizing messages w with
  | nil => exact hR.refl w
  | cons rule rest ih =>
    have htake := hR.takeOne rule (c.scene s request response w) w
    unfold Caller.takeAll
    rcases htaken : c.takeOne rule (c.scene s request response w) w with ⟨result, w₁⟩
    rw [htaken] at htake
    cases result with
    | ok _ => exact hR.trans htake (ih messages w₁)
    | error raised =>
      dsimp only
      cases hfailure : failure rule raised with
      | error e => exact htake
      -- a plain failure is noted, and the extractors go on
      | ok message => exact hR.trans htake (hR.trans (hR.note w₁ _) (ih _ _))

theorem of_takeAll (hR : c.Quiet R) {messages messages' : List String}
    {result : Except CallError Unit}
    (h : c.takeAll s request response rules messages w = (result, messages', w')) : R w w' := by
  have htake := hR.takeAll s request response rules messages w
  rw [h] at htake
  exact htake

/-! ## Milestones -/

theorem of_builds (hR : c.Quiet R) {request : Request} (h : c.Builds s w request w') : R w w' := by
  obtain ⟨-, -, hbuild⟩ := h
  exact hR.trans (hR.poll w) (hR.build hbuild)

theorem of_sends (hR : c.Quiet R) {request : Request} (h : c.Sends s w request entries w') :
    R w w' := by
  obtain ⟨hbuilds, hran, -⟩ := h
  exact hR.trans (hR.of_builds hbuilds) (hR.trans (hR.of_ran hran) (hR.poll _))

end Quiet

/-! ## A call seen from the transport -/

variable {w : World σ}

/-- A call sends nothing, or it sends one request. Its record says which, and what came back; a
relation holds up to the moment of sending and from the transport's answer on. -/
inductive Carries (c : Caller σ) (s : ResolvedScript) (w : World σ)
    (R : World σ → World σ → Prop) (r : Call × World σ) : Prop where
  | nothing (hsent : r.1.sent = false) (hresponse : r.1.response = none) (hquiet : R w r.2)
  | request {w₁ : World σ} {request : Request} {entries : List LedgerEntry}
      (hsends : c.Sends s w request entries w₁) (hsent : r.1.sent = true)
      (hrequest : r.1.request = some request)
      (hresponse : r.1.response = (c.services.send request w₁.host).value.toOption)
      (hbefore : R w w₁) (hafter : R (c.afterSend request w₁) r.2)

section Answered

variable {r : Call × World σ} {request : Request} {response : Response}
  {entries : List LedgerEntry} {messages : List String} {w₁ : World σ}

/-- A call that was answered carries its request. -/
theorem Receives.carries (hR : c.Quiet R) (h : c.Receives s w request response entries w₁)
    (hsent : r.1.sent = true) (hrequest : r.1.request = some request)
    (hresponse : r.1.response = some response) (hafter : R w₁ r.2) : c.Carries s w R r := by
  obtain ⟨hsends, hreply⟩ := h
  refine .request hsends hsent hrequest ?_ (hR.of_sends hsends) hafter
  rw [hreply]
  exact hresponse

/-- So does one whose extractors have run. -/
theorem Extracts.carries (hR : c.Quiet R)
    (h : c.Extracts s w request response entries messages w₁)
    (hsent : r.1.sent = true) (hrequest : r.1.request = some request)
    (hresponse : r.1.response = some response) (hafter : R w₁ r.2) : c.Carries s w R r := by
  obtain ⟨hreceives, -, htake⟩ := h
  have hextraction := hR.trans (hR.poll _) (hR.of_takeAll htake)
  exact hreceives.carries hR hsent hrequest hresponse (hR.trans hextraction hafter)

/-- So does one whose assertions are run. -/
theorem Asserts.carries (hR : c.Quiet R)
    (h : c.Asserts s w request response entries messages w₁)
    (hsent : r.1.sent = true) (hrequest : r.1.request = some request)
    (hresponse : r.1.response = some response) (hafter : R w₁ r.2) : c.Carries s w R r := by
  obtain ⟨hextracts, -⟩ := h
  exact hextracts.carries hR hsent hrequest hresponse (hR.trans (hR.poll _) hafter)

end Answered

/-- **A call sends at most one request.** Every way to end a call carries nothing or one request. -/
theorem Ends.carries (hR : c.Quiet R) {r : Call × World σ} (h : c.Ends s w r) :
    c.Carries s w R r := by
  -- the first six ways out lie before the moment of sending, the others behind it
  cases h with
  | misconfigured _ => exact .nothing rfl rfl (hR.note _ _)
  | stoppedAtStart _ _ => exact .nothing rfl rfl (hR.poll w)
  | unbuilt _ _ hbuild =>
    exact .nothing rfl rfl (hR.trans (hR.trans (hR.poll w) (hR.build hbuild)) (hR.note _ _))
  | refused hbuilds hchecked =>
    exact .nothing rfl rfl (hR.trans (hR.of_builds hbuilds) (hR.of_checked hchecked))
  | preconditionHalted hbuilds hchecked =>
    have hstage := hR.trans (hR.of_builds hbuilds) (hR.of_checked hchecked)
    exact .nothing rfl rfl (hR.trans hstage (hR.note _ _))
  | stoppedBeforeSending hbuilds hran _ =>
    have hstage := hR.trans (hR.of_builds hbuilds) (hR.of_ran hran)
    exact .nothing rfl rfl (hR.trans hstage (hR.poll _))
  | unanswered hsends hreply =>
    refine .request hsends rfl rfl ?_ (hR.of_sends hsends) (hR.note _ _)
    rw [hreply]
    rfl
  | stoppedOnReceipt hreceives _ => exact hreceives.carries hR rfl rfl rfl (hR.poll _)
  | extractionHalted hreceives _ htake =>
    have hextraction := hR.trans (hR.poll _) (hR.of_takeAll htake)
    exact hreceives.carries hR rfl rfl rfl (hR.trans hextraction (hR.note _ _))
  | stoppedBeforeAsserting hextracts _ => exact hextracts.carries hR rfl rfl rfl (hR.poll _)
  | assertionHalted hasserts hchecked =>
    have hassertion := hR.of_checked hchecked
    exact hasserts.carries hR rfl rfl rfl (hR.trans hassertion (hR.note _ _))
  | asserted hasserts hran => exact hasserts.carries hR rfl rfl rfl (hR.of_ran hran)

/-- **What a whole call keeps.** A quiet relation that sending keeps too holds from the beginning of a
call to its end. -/
theorem Quiet.run (hR : c.Quiet R)
    (hsend : ∀ request w, R w (c.afterSend request w)) (s : ResolvedScript) (w : World σ) :
    R w (c.run s w).2 := by
  have hcarries := (c.run_ends s w).carries hR
  cases hcarries with
  | nothing _ _ hquiet => exact hquiet
  | request _ _ _ _ hbefore hafter =>
    exact hR.trans hbefore (hR.trans (hsend _ _) hafter)

/-! ## The flag -/

/-- A stop is not taken back. -/
theorem quiet_stopped (c : Caller σ) :
    c.Quiet fun w w' => w.stopped = true → w'.stopped = true :=
  quiet_of_stable
    { refl _ h := h
      trans h h' hstop := h' (h hstop)
      settle _ r h := World.stopped_settle r h
      note _ _ h := h
      bind _ _ _ h := h
      unbind _ _ h := h
      disk _ _ h := h } c

end Caller

end RestSuite
