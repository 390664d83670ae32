import Mathlib.Data.List.Forall2
import RestSuite.Call.Run

/-!
# The ledger of a call in document order

A call keeps three lists of entries, one for each outcome. What was recorded is easier to speak of
as one list, in the order in which the rules stand in the document: the three lists of the call are
what is left of it when only the entries of one outcome are kept.

* **`Call.withLedger`** — a call whose three lists come from one list of entries. Entering a rule and
  skipping rules append to that list (`withLedger_enter`, `withLedger_skip`), so every call that the
  stages build has this form.
* **`Records`** — the entries are about the rules, one for each and in their order.
-/

namespace RestSuite

/-! ## Entries -/

/-- The entry is about the rule: it has its stage, its key and its configuration. -/
structure LedgerEntry.IsAbout (e : LedgerEntry) (r : Rule) : Prop where
  stage : e.stage = r.stage
  key : e.key = r.key
  config : e.config = r.config

/-- The entry carries a message unless its rule passed. -/
def LedgerEntry.Explained (e : LedgerEntry) : Prop :=
  e.message = none ↔ e.outcome = .passed

/-- All entries have the outcome. -/
def AllAre (o : Outcome) (entries : List LedgerEntry) : Prop :=
  ∀ e ∈ entries, e.outcome = o

/-- The entries are about the rules, one for each and in their order. -/
def Records (entries : List LedgerEntry) (rules : List Rule) : Prop :=
  List.Forall₂ LedgerEntry.IsAbout entries rules

/-- The entries of one outcome, in their order. -/
def entriesOf (o : Outcome) (entries : List LedgerEntry) : List LedgerEntry :=
  entries.filter fun e => e.outcome = o

/-- What rules that are not run leave in the ledger. -/
def skippedEntries (rules : List Rule) (reason : String) : List LedgerEntry :=
  rules.map fun r => r.entry .skipped (some reason)

theorem Rule.isAbout_entry (r : Rule) (o : Outcome) (message : Option String) :
    (r.entry o message).IsAbout r :=
  ⟨rfl, rfl, rfl⟩

/-! ## Lists of entries -/

theorem Records.append {entries more : List LedgerEntry} {rules others : List Rule}
    (h : Records entries rules) (hmore : Records more others) :
    Records (entries ++ more) (rules ++ others) :=
  List.rel_append h hmore

theorem records_skippedEntries (rules : List Rule) (reason : String) :
    Records (skippedEntries rules reason) rules := by
  induction rules with
  | nil => exact .nil
  | cons r rest ih => exact .cons (r.isAbout_entry .skipped (some reason)) ih

/-- Every entry stands for one of the rules. -/
theorem Records.exists_rule {entries : List LedgerEntry} {rules : List Rule}
    (h : Records entries rules) {e : LedgerEntry} (he : e ∈ entries) :
    ∃ r ∈ rules, e.IsAbout r := by
  induction h with
  | nil => cases he
  | cons hhead _ ih =>
    rcases List.mem_cons.1 he with rfl | he
    · exact ⟨_, List.mem_cons_self, hhead⟩
    · obtain ⟨r, hr, habout⟩ := ih he
      exact ⟨r, List.mem_cons_of_mem _ hr, habout⟩

theorem skippedEntries_append (rules others : List Rule) (reason : String) :
    skippedEntries (rules ++ others) reason =
      skippedEntries rules reason ++ skippedEntries others reason :=
  List.map_append

theorem allAre_skippedEntries (rules : List Rule) (reason : String) :
    AllAre .skipped (skippedEntries rules reason) := by
  intro e he
  obtain ⟨r, _, rfl⟩ := List.mem_map.1 he
  rfl

theorem explained_skippedEntries (rules : List Rule) (reason : String) :
    ∀ e ∈ skippedEntries rules reason, e.Explained := by
  intro e he
  obtain ⟨r, _, rfl⟩ := List.mem_map.1 he
  simp [LedgerEntry.Explained, Rule.entry]

@[simp]
theorem entriesOf_append (o : Outcome) (entries more : List LedgerEntry) :
    entriesOf o (entries ++ more) = entriesOf o entries ++ entriesOf o more :=
  List.filter_append ..

/-- Sorting by one outcome keeps everything of a list that has only this outcome. -/
theorem AllAre.entriesOf_self {o : Outcome} {entries : List LedgerEntry} (h : AllAre o entries) :
    entriesOf o entries = entries :=
  List.filter_eq_self.2 fun e he => by simpa using h e he

/-- Nothing of an outcome is left where all entries have another one. -/
theorem AllAre.entriesOf_other {o other : Outcome} {entries : List LedgerEntry}
    (h : AllAre o entries) (hne : o ≠ other) : entriesOf other entries = [] :=
  List.filter_eq_nil_iff.2 fun e he => by simpa [h e he] using hne

theorem mem_entriesOf {o : Outcome} {entries : List LedgerEntry} {e : LedgerEntry} :
    e ∈ entriesOf o entries ↔ e ∈ entries ∧ e.outcome = o := by
  simp [entriesOf]

/-! ## Calls with a ledger -/

namespace Call

/-- The three lists of the call are the entries, each list those of its outcome. -/
structure HasLedger (call : Call) (entries : List LedgerEntry) : Prop where
  passed : call.passed = entriesOf .passed entries
  failed : call.failed = entriesOf .failed entries
  skipped : call.skipped = entriesOf .skipped entries

/-- The call with a ledger made of the entries. -/
def withLedger (call : Call) (entries : List LedgerEntry) : Call :=
  { call with
    passed := entriesOf .passed entries
    failed := entriesOf .failed entries
    skipped := entriesOf .skipped entries }

theorem hasLedger_withLedger (call : Call) (entries : List LedgerEntry) :
    (call.withLedger entries).HasLedger entries :=
  ⟨rfl, rfl, rfl⟩

theorem fresh_withLedger_nil (script : String) : (fresh script).withLedger [] = fresh script :=
  rfl

/-- Entering a rule appends its entry, whatever its outcome. -/
theorem withLedger_enter (call : Call) (entries : List LedgerEntry) (e : LedgerEntry) :
    (call.withLedger entries).enter e = call.withLedger (entries ++ [e]) := by
  unfold enter withLedger
  cases ho : e.outcome <;> simp [entriesOf, ho]

/-- Skipping rules appends their entries. -/
theorem withLedger_skip (call : Call) (entries : List LedgerEntry) (rules : List Rule)
    (reason : String) :
    (call.withLedger entries).skip rules reason =
      call.withLedger (entries ++ skippedEntries rules reason) := by
  have hall := allAre_skippedEntries rules reason
  have hpassed : entriesOf .passed (skippedEntries rules reason) = [] :=
    hall.entriesOf_other (by decide)
  have hfailed : entriesOf .failed (skippedEntries rules reason) = [] :=
    hall.entriesOf_other (by decide)
  unfold skip withLedger
  simp only [entriesOf_append, hpassed, hfailed, hall.entriesOf_self, List.append_nil]
  rfl

end Call

end RestSuite
