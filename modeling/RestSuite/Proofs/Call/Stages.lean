import RestSuite.Proofs.Call.Ledger

/-!
# What a stage of checks can do

`Caller.checkAll` runs checks one after the other, enters each into the ledger, and skips the rest
when the stage ends early. This module says once what that comes to, so that no later proof opens
the recursion again.

* **`Caller.Ran`** — checks that were run one after the other, none of which ended the stage, with
  the entries they left and the worlds they led through.
* **`Caller.Checked`** — a whole stage: it completed, or a precondition refused, or a rule gave no
  verdict. In the two latter cases the rule that ended it stands behind rules that ran and before
  rules that were skipped.
* **`checkAll_checked`** — these are all the ways in which a stage can go.
-/

namespace RestSuite.Caller

variable {σ : Type} {c : Caller σ} {stage : Stage} {s : ResolvedScript}
  {request : Option Request} {response : Option Response}

/-! ## Single rules -/

/-- A rule that gives no verdict has a behavior that ended in one of three kinds of errors, or no
behavior at all. -/
theorem kind_of_check_halted {rule : Rule} {scene : Scene} {w w' : World σ} {e : CallError}
    (h : c.check stage rule scene w = (.halted e, w')) :
    (∃ x, e = .binding x) ∨ (∃ x, e = .configuration x) ∨ (∃ x, e = .evaluation x) := by
  unfold check at h
  split at h
  · -- a key without a behavior is an error of the configuration
    next x _ => cases h; exact .inr (.inl ⟨x, rfl⟩)
  · next assertion _ =>
    have hresult := congrArg Prod.fst h
    dsimp only at hresult
    cases hvalue : (assertion rule scene c.services.evaluator w.host).value with
    | ok verdict => cases verdict <;> simp [hvalue, CheckResult.ofVerdict] at hresult
    | error raised =>
      rw [hvalue] at hresult
      -- a plain failure is a verdict, every other error is not
      cases raised with
      | failed message => cases hresult
      | binding x => cases hresult; exact .inl ⟨x, rfl⟩
      | configuration x => cases hresult; exact .inr (.inl ⟨x, rfl⟩)
      | evaluation x => cases hresult; exact .inr (.inr ⟨x, rfl⟩)

/-! ## Rules that are run -/

/-- The rules are run one after the other, from a world to a world, and none of them ends the stage.
A failed verdict does not, unless the rule is a precondition. -/
inductive Ran (c : Caller σ) (stage : Stage) (s : ResolvedScript) (request : Option Request)
    (response : Option Response) : World σ → List Rule → List LedgerEntry → World σ → Prop where
  | nil (w : World σ) : Ran c stage s request response w [] [] w
  | passed {w w₁ w₂ : World σ} {rule : Rule} {rules : List Rule} {entries : List LedgerEntry}
      (hcheck : c.check stage rule (c.scene s request response w) w = (.passed, w₁))
      (hrest : Ran c stage s request response w₁ rules entries w₂) :
      Ran c stage s request response w (rule :: rules) (rule.entry .passed none :: entries) w₂
  | failed {w w₁ w₂ : World σ} {rule : Rule} {rules : List Rule} {entries : List LedgerEntry}
      {message : String} (hstage : stage ≠ .precondition)
      (hcheck : c.check stage rule (c.scene s request response w) w = (.failed message, w₁))
      (hrest : Ran c stage s request response w₁ rules entries w₂) :
      Ran c stage s request response w (rule :: rules)
        (rule.entry .failed (some message) :: entries) w₂

theorem Ran.records {w w' : World σ} {rules : List Rule} {entries : List LedgerEntry}
    (h : c.Ran stage s request response w rules entries w') : Records entries rules := by
  induction h with
  | nil => exact .nil
  | passed _ _ ih => exact .cons (Rule.isAbout_entry _ _ _) ih
  | failed _ _ _ ih => exact .cons (Rule.isAbout_entry _ _ _) ih

theorem Ran.explained {w w' : World σ} {rules : List Rule} {entries : List LedgerEntry}
    (h : c.Ran stage s request response w rules entries w') : ∀ e ∈ entries, e.Explained := by
  induction h with
  | nil => simp
  | passed _ _ ih => exact List.forall_mem_cons.2 ⟨by simp [LedgerEntry.Explained, Rule.entry], ih⟩
  | failed _ _ _ ih =>
    exact List.forall_mem_cons.2 ⟨by simp [LedgerEntry.Explained, Rule.entry], ih⟩

/-- A rule that is run is not skipped. -/
theorem Ran.ne_skipped {w w' : World σ} {rules : List Rule} {entries : List LedgerEntry}
    (h : c.Ran stage s request response w rules entries w') :
    ∀ e ∈ entries, e.outcome ≠ .skipped := by
  induction h with
  | nil => simp
  | passed _ _ ih => exact List.forall_mem_cons.2 ⟨by simp [Rule.entry], ih⟩
  | failed _ _ _ ih => exact List.forall_mem_cons.2 ⟨by simp [Rule.entry], ih⟩

/-- Preconditions that do not end their stage have passed. -/
theorem Ran.allAre_passed {w w' : World σ} {rules : List Rule} {entries : List LedgerEntry}
    (h : c.Ran .precondition s request response w rules entries w') : AllAre .passed entries := by
  induction h with
  | nil => simp [AllAre]
  | passed _ _ ih => exact List.forall_mem_cons.2 ⟨rfl, ih⟩
  | failed hstage _ _ _ => exact absurd rfl hstage

/-- The world and the rules determine what is recorded and what world is reached. -/
theorem Ran.unique {w w₁ w₂ : World σ} {rules : List Rule} {entries others : List LedgerEntry}
    (h : c.Ran stage s request response w rules entries w₁)
    (h' : c.Ran stage s request response w rules others w₂) : entries = others ∧ w₁ = w₂ := by
  induction h generalizing others w₂ with
  | nil => cases h'; exact ⟨rfl, rfl⟩
  | passed hcheck _ ih =>
    cases h' with
    | passed hcheck' hrest' =>
      -- the same rule in the same world, so the rest starts from the same world
      cases hcheck.symm.trans hcheck'
      obtain ⟨rfl, rfl⟩ := ih hrest'
      exact ⟨rfl, rfl⟩
    | failed _ hcheck' _ => cases hcheck.symm.trans hcheck'
  | failed _ hcheck _ ih =>
    cases h' with
    | passed hcheck' _ => cases hcheck.symm.trans hcheck'
    | failed _ hcheck' hrest' =>
      cases hcheck.symm.trans hcheck'
      obtain ⟨rfl, rfl⟩ := ih hrest'
      exact ⟨rfl, rfl⟩

/-- Rules that were run come apart at every place. -/
theorem Ran.append_inv {w w' : World σ} {done rest : List Rule} {entries : List LedgerEntry}
    (h : c.Ran stage s request response w (done ++ rest) entries w') :
    ∃ before after w₁, entries = before ++ after
      ∧ c.Ran stage s request response w done before w₁
      ∧ c.Ran stage s request response w₁ rest after w' := by
  induction done generalizing w entries with
  | nil => exact ⟨[], entries, w, rfl, .nil w, h⟩
  | cons rule done ih =>
    cases h with
    | passed hcheck hrest =>
      obtain ⟨before, after, w₁, rfl, hdone, hrest'⟩ := ih hrest
      exact ⟨_ :: before, after, w₁, rfl, .passed hcheck hdone, hrest'⟩
    | failed hstage hcheck hrest =>
      obtain ⟨before, after, w₁, rfl, hdone, hrest'⟩ := ih hrest
      exact ⟨_ :: before, after, w₁, rfl, .failed hstage hcheck hdone, hrest'⟩

/-! ## Whole stages -/

/-- A stage of checks as a whole: how it ends, the entries it leaves, one for each rule, and the
world it leads to. -/
inductive Checked (c : Caller σ) (stage : Stage) (s : ResolvedScript) (request : Option Request)
    (response : Option Response) (w : World σ) (rules : List Rule) :
    StageEnd → List LedgerEntry → World σ → Prop where
  | completed {entries : List LedgerEntry} {w' : World σ}
      (hran : c.Ran stage s request response w rules entries w') :
      Checked c stage s request response w rules .completed entries w'
  | refused {before after : List Rule} {rule : Rule} {entries : List LedgerEntry}
      {message : String} {w₁ w₂ : World σ}
      (hstage : stage = .precondition)
      (hrules : rules = before ++ rule :: after)
      (hran : c.Ran stage s request response w before entries w₁)
      (hcheck : c.check stage rule (c.scene s request response w₁) w₁ = (.failed message, w₂)) :
      Checked c stage s request response w rules .refused
        (entries ++ rule.entry .failed (some message) ::
          skippedEntries after "precondition failed") w₂
  | halted {before after : List Rule} {rule : Rule} {entries : List LedgerEntry}
      {e : CallError} {w₁ w₂ : World σ}
      (hrules : rules = before ++ rule :: after)
      (hran : c.Ran stage s request response w before entries w₁)
      (hcheck : c.check stage rule (c.scene s request response w₁) w₁ = (.halted e, w₂)) :
      Checked c stage s request response w rules (.halted e)
        (entries ++ rule.entry .failed (some e.message) ::
          skippedEntries after "stage halted") w₂

/-- A stage of rules that can all be run completes. -/
theorem Ran.fin_eq_completed {w w₁ w₂ : World σ} {rules : List Rule} {fin : StageEnd}
    {entries others : List LedgerEntry} (hran : c.Ran stage s request response w rules entries w₁)
    (h : c.Checked stage s request response w rules fin others w₂) : fin = .completed := by
  cases h with
  | completed _ => rfl
  | refused hstage hrules hbefore hfail =>
    -- the rule that ended the stage was run in the world in which it failed
    rw [hrules] at hran
    obtain ⟨_, _, _, -, hbefore', hrule⟩ := hran.append_inv
    obtain ⟨-, rfl⟩ := hbefore.unique hbefore'
    cases hrule with
    | passed hcheck _ => cases hcheck.symm.trans hfail
    | failed hne _ _ => exact absurd hstage hne
  | halted hrules hbefore hhalt =>
    rw [hrules] at hran
    obtain ⟨_, _, _, -, hbefore', hrule⟩ := hran.append_inv
    obtain ⟨-, rfl⟩ := hbefore.unique hbefore'
    cases hrule with
    | passed hcheck _ => cases hcheck.symm.trans hhalt
    | failed _ hcheck _ => cases hcheck.symm.trans hhalt

/-- A rule that passed, put in front of a stage. -/
theorem Checked.cons_passed {w w₁ w' : World σ} {rule : Rule} {rules : List Rule} {fin : StageEnd}
    {entries : List LedgerEntry}
    (hcheck : c.check stage rule (c.scene s request response w) w = (.passed, w₁))
    (h : c.Checked stage s request response w₁ rules fin entries w') :
    c.Checked stage s request response w (rule :: rules) fin
      (rule.entry .passed none :: entries) w' := by
  cases h with
  | completed hran => exact .completed (.passed hcheck hran)
  | refused hstage hrules hran hfail =>
    subst hrules
    exact .refused hstage (List.cons_append ..).symm (.passed hcheck hran) hfail
  | halted hrules hran hhalt =>
    subst hrules
    exact .halted (List.cons_append ..).symm (.passed hcheck hran) hhalt

/-- A rule that failed without ending the stage, put in front of it. -/
theorem Checked.cons_failed {w w₁ w' : World σ} {rule : Rule} {rules : List Rule} {fin : StageEnd}
    {entries : List LedgerEntry} {message : String} (hne : stage ≠ .precondition)
    (hcheck : c.check stage rule (c.scene s request response w) w = (.failed message, w₁))
    (h : c.Checked stage s request response w₁ rules fin entries w') :
    c.Checked stage s request response w (rule :: rules) fin
      (rule.entry .failed (some message) :: entries) w' := by
  cases h with
  | completed hran => exact .completed (.failed hne hcheck hran)
  | refused hstage _ _ _ => exact absurd hstage hne
  | halted hrules hran hhalt =>
    subst hrules
    exact .halted (List.cons_append ..).symm (.failed hne hcheck hran) hhalt

/-- **Every way a stage of checks can go.** Whatever the ledger held before, the stage appends the
entries of one of the three kinds of stages. Induction on the rules; the call and the world change
with every rule, so the statement is about all of them. -/
theorem checkAll_checked (c : Caller σ) (stage : Stage) (s : ResolvedScript)
    (request : Option Request) (response : Option Response) (rules : List Rule) (call : Call)
    (recorded : List LedgerEntry) (w : World σ) :
    ∃ fin entries w',
      c.checkAll stage s request response rules (call.withLedger recorded) w =
        (fin, call.withLedger (recorded ++ entries), w') ∧
      c.Checked stage s request response w rules fin entries w' := by
  induction rules generalizing recorded w with
  | nil => exact ⟨.completed, [], w, by simp [checkAll], .completed (.nil w)⟩
  | cons rule rest ih =>
    unfold checkAll
    rcases hcheck : c.check stage rule (c.scene s request response w) w with ⟨result, w₁⟩
    cases result with
    | passed =>
      obtain ⟨fin, entries, w', heq, h⟩ := ih (recorded ++ [rule.entry .passed none]) w₁
      refine ⟨fin, rule.entry .passed none :: entries, w', ?_, h.cons_passed hcheck⟩
      simp only [Call.withLedger_enter, heq, List.append_assoc, List.singleton_append]
    | failed message =>
      -- a failed precondition ends its stage, a failed assertion does not
      by_cases hstage : stage = .precondition
      · subst hstage
        refine ⟨.refused, [] ++ rule.entry .failed (some message) ::
            skippedEntries rest "precondition failed", w₁, ?_,
          .refused rfl rfl (.nil w) hcheck⟩
        simp only [Call.withLedger_enter, Call.withLedger_skip, List.append_assoc,
          List.nil_append, List.singleton_append]
      · obtain ⟨fin, entries, w', heq, h⟩ :=
          ih (recorded ++ [rule.entry .failed (some message)]) w₁
        refine ⟨fin, rule.entry .failed (some message) :: entries, w', ?_,
          h.cons_failed hstage hcheck⟩
        cases stage with
        | precondition => exact absurd rfl hstage
        | extraction =>
          simp only [Call.withLedger_enter, heq, List.append_assoc, List.singleton_append]
        | assertion =>
          simp only [Call.withLedger_enter, heq, List.append_assoc, List.singleton_append]
    | halted e =>
      -- the entry of the rule stands between what ran before it, here nothing, and the skipped rest
      refine ⟨.halted e, [] ++ rule.entry .failed (some e.message) ::
          skippedEntries rest "stage halted", w₁, ?_, .halted rfl (.nil w) hcheck⟩
      simp only [Call.withLedger_enter, Call.withLedger_skip, List.append_assoc,
        List.nil_append, List.singleton_append]

/-! ## What a stage records -/

theorem Checked.records {w w' : World σ} {rules : List Rule} {fin : StageEnd}
    {entries : List LedgerEntry} (h : c.Checked stage s request response w rules fin entries w') :
    Records entries rules := by
  cases h with
  | completed hran => exact hran.records
  | refused _ hrules hran _ =>
    subst hrules
    exact hran.records.append (.cons (Rule.isAbout_entry _ _ _) (records_skippedEntries _ _))
  | halted hrules hran _ =>
    subst hrules
    exact hran.records.append (.cons (Rule.isAbout_entry _ _ _) (records_skippedEntries _ _))

/-- The entries of a stage that ended early: those of the rules that ran, that of a failed rule, and
those of rules that were skipped. -/
theorem explained_of_ended {entries : List LedgerEntry} (hran : ∀ e ∈ entries, e.Explained)
    (rule : Rule) (message : String) (after : List Rule) (reason : String) :
    ∀ e ∈ entries ++ rule.entry .failed (some message) :: skippedEntries after reason,
      e.Explained := by
  intro e he
  rcases List.mem_append.1 he with he | he
  · exact hran e he
  · rcases List.mem_cons.1 he with rfl | he
    · simp [LedgerEntry.Explained, Rule.entry]
    · exact explained_skippedEntries after reason e he

/-- Preconditions have passed, or passed up to one that failed, behind which the rest is skipped. -/
theorem Checked.preconditions {w w' : World σ} {rules : List Rule} {fin : StageEnd}
    {entries : List LedgerEntry}
    (h : c.Checked .precondition s request response w rules fin entries w') :
    AllAre .passed entries ∨ ∃ before e after, entries = before ++ e :: after ∧
      AllAre .passed before ∧ e.outcome = .failed ∧ AllAre .skipped after := by
  cases h with
  | completed hran => exact .inl hran.allAre_passed
  | refused _ _ hran _ =>
    exact .inr ⟨_, _, _, rfl, hran.allAre_passed, rfl, allAre_skippedEntries _ _⟩
  | halted _ hran _ =>
    exact .inr ⟨_, _, _, rfl, hran.allAre_passed, rfl, allAre_skippedEntries _ _⟩

theorem Checked.explained {w w' : World σ} {rules : List Rule} {fin : StageEnd}
    {entries : List LedgerEntry} (h : c.Checked stage s request response w rules fin entries w') :
    ∀ e ∈ entries, e.Explained := by
  cases h with
  | completed hran => exact hran.explained
  | refused _ _ hran _ => exact explained_of_ended hran.explained _ _ _ _
  | halted _ hran _ => exact explained_of_ended hran.explained _ _ _ _

end RestSuite.Caller
