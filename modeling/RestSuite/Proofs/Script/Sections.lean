import RestSuite.Proofs.Sequencing
import RestSuite.Script.Resolved

/-!
# What a script itself declares

A script is read section by section, and each section has one form that it must have. This module says
what that form is and what is read from it, without the steps of the reading: everything that stands
in the document, in its order, and every rule with the name of the script.

* **`Rule.Reads`** — the rule that a node stands for.
* **`Script.Declares`** — the method, headers, variables and rules that a script itself declares.
* **`Script.declares_iff`** — the script is read as this, and as nothing else.
* **`Script.WellFormed`** — there is something that the script declares. Otherwise the fault that is
  reported is one of its sections: `ConfigurationError.IsMalformed`.
-/

namespace RestSuite

variable {s : Script} {stage : Stage} {source key : String} {node : Json} {rule : Rule}
  {rules : List Rule} {fields members : List (String × Json)} {e : ConfigurationError}
  {lines : List (Method × String)} {line? : Option (Method × String)} {own : Layer}

/-- The fault is one in a section of a script: a field, a method or a rule has not the form that it
must have. -/
inductive ConfigurationError.IsMalformed : ConfigurationError → Prop where
  | field (name reason : String) : IsMalformed (.malformedField name reason)
  | method (name found : String) : IsMalformed (.malformedMethod name found)
  | rule (stage : Stage) (reason : String) : IsMalformed (.malformedRule stage reason)

/-! ## Rules -/

/-- The rule that a node stands for, where a script of a name declares it for a stage. -/
inductive Rule.Reads (stage : Stage) (source : String) : Json → Rule → Prop where
  /-- A bare string is an expression to be evaluated. -/
  | expression (text : String) :
      Reads stage source (.string text) ⟨stage, expressionKey, .string text, false, source⟩
  /-- An object has one member beside the flag, and the flag, if it is there, is a truth value. -/
  | keyed {members : List (String × Json)} {key : String} {config : Json} {required : Bool}
      (hflag : (OrderedMap.get? members requiredKey).getD (.bool false) = .bool required)
      (hone : members.filter (fun member => member.1 != requiredKey) = [(key, config)]) :
      Reads stage source (.object members) ⟨stage, key, config, required, source⟩

/-- **A node is read as the rule that it stands for.** -/
theorem Rule.ofJson_eq_ok_iff :
    Rule.ofJson stage node source = .ok rule ↔ Rule.Reads stage source node rule := by
  constructor
  · intro h
    cases node with
    | string text =>
      cases h
      exact .expression text
    | object members =>
      unfold Rule.ofJson at h
      dsimp only at h
      -- the flag is read first, and where it is no truth value, no rule comes out
      split at h
      case h_3 => cases h
      all_goals
        next hget =>
          obtain ⟨required, hrequired, h⟩ := bind_eq_ok_iff.1 h
          cases hrequired
          split at h
          · cases h
          · next key config hone =>
            cases h
            exact .keyed (by rw [hget]; rfl) hone
          · cases h
    | _ => cases h
  · intro h
    cases h with
    | expression text => rfl
    | @keyed members key config required hflag hone =>
      have hread : OrderedMap.get? members requiredKey = none ∧ required = false
          ∨ OrderedMap.get? members requiredKey = some (.bool required) := by
        cases hget : OrderedMap.get? members requiredKey with
        | none =>
          rw [hget] at hflag
          cases hflag
          exact .inl ⟨rfl, rfl⟩
        | some value =>
          rw [hget] at hflag
          exact .inr (congrArg some hflag)
      unfold Rule.ofJson
      dsimp only
      rw [hone]
      rcases hread with ⟨hget, rfl⟩ | hget
      · rw [hget]
        rfl
      · rw [hget]
        rfl

/-- Other nodes are malformed. -/
theorem Rule.isMalformed_of_ofJson (h : Rule.ofJson stage node source = .error e) :
    e.IsMalformed := by
  cases node with
  | string text => cases h
  | object members =>
    unfold Rule.ofJson at h
    dsimp only at h
    split at h
    all_goals
      rcases bind_eq_error_iff.1 h with h | ⟨required, -, h⟩
      · cases h
        try exact .rule _ _
      · split at h <;> cases h <;> exact .rule _ _
  | _ => cases h; exact .rule _ _

/-- The nodes of a section of rules: the items of an array, or a single rule. -/
def Script.ruleNodes (s : Script) (stage : Stage) : List Json :=
  match OrderedMap.get? s.fields stage.sectionKey with
  | none | some .null => []
  | some (.array nodes) => nodes
  | some single => [single]

/-- The rules that a script itself declares for a stage: one for each node, in their order. -/
def Script.DeclaresRules (s : Script) (stage : Stage) (rules : List Rule) : Prop :=
  List.Forall₂ (Rule.Reads stage s.name) (s.ruleNodes stage) rules

theorem Script.ownRules_eq_mapM (s : Script) (stage : Stage) :
    s.ownRules stage = (s.ruleNodes stage).mapM fun node => Rule.ofJson stage node s.name := by
  have hsingle : ∀ single : Json,
      (do let rule ← Rule.ofJson stage single s.name; Except.ok [rule]) =
        [single].mapM fun node => Rule.ofJson stage node s.name := by
    intro single
    rw [List.mapM_cons, List.mapM_nil]
    cases Rule.ofJson stage single s.name <;> rfl
  unfold Script.ownRules Script.ruleNodes
  cases OrderedMap.get? s.fields stage.sectionKey with
  | none => rfl
  | some value =>
    cases value with
    | null => rfl
    | array nodes => rfl
    | _ => exact hsingle _

theorem Script.ownRules_eq_ok_iff : s.ownRules stage = .ok rules ↔ s.DeclaresRules stage rules := by
  rw [Script.ownRules_eq_mapM, mapM_eq_ok_iff]
  unfold Script.DeclaresRules
  simp only [Rule.ofJson_eq_ok_iff]

theorem Script.isMalformed_of_ownRules (h : s.ownRules stage = .error e) : e.IsMalformed := by
  rw [Script.ownRules_eq_mapM] at h
  obtain ⟨node, -, hnode⟩ := exists_of_mapM_eq_error h
  exact Rule.isMalformed_of_ofJson hnode

/-- Every rule is tagged with its script. -/
theorem Script.DeclaresRules.source_eq (h : s.DeclaresRules stage rules) :
    ∀ rule ∈ rules, rule.source = s.name := by
  unfold Script.DeclaresRules at h
  generalize s.ruleNodes stage = nodes at h
  induction h with
  | nil => exact List.forall_mem_nil _
  | cons hreads _ ih => exact List.forall_mem_cons.2 ⟨by cases hreads <;> rfl, ih⟩

namespace Script

/-! ## Methods -/

/-- The fields that are named like a method, in order. -/
def methodFields (fields : List (String × Json)) : List (Method × Json) :=
  fields.filterMap fun field => (Method.ofKey? field.1).map (·, field.2)

/-- The fields that are named like a method are these methods with their URIs. -/
def DeclaresLines (fields : List (String × Json)) (lines : List (Method × String)) : Prop :=
  methodFields fields = lines.map fun line => (line.1, .string line.2)

theorem methodFields_cons (key : String) (value : Json) (fields : List (String × Json)) :
    methodFields ((key, value) :: fields) =
      ((Method.ofKey? key).map (·, value)).toList ++ methodFields fields := by
  unfold methodFields
  rw [List.filterMap_cons]
  cases Method.ofKey? key <;> rfl

/-- The scan comes to its end exactly if every method has a text as its URI. -/
theorem scanMethods_eq_iff :
    scanMethods fields = (lines, none) ↔ DeclaresLines fields lines := by
  unfold DeclaresLines
  induction fields generalizing lines with
  | nil =>
    constructor
    · intro h
      cases h
      rfl
    · intro h
      rw [List.map_eq_nil_iff.1 h.symm]
      rfl
  | cons field rest ih =>
    obtain ⟨key, value⟩ := field
    rw [methodFields_cons]
    unfold scanMethods
    cases hkey : Method.ofKey? key with
    | none => exact ih
    | some method =>
      cases value with
      | string uri =>
        cases lines with
        | nil => exact ⟨nofun, nofun⟩
        | cons line more =>
          have hrest := @ih more
          rcases hscan : scanMethods rest with ⟨found, fault⟩
          rw [hscan, Prod.mk.injEq] at hrest
          constructor
          · intro h
            cases h
            exact congrArg ((method, Json.string uri) :: ·) (hrest.1 ⟨rfl, rfl⟩)
          · intro h
            obtain ⟨hline, hmore⟩ := List.cons.inj h
            cases hline
            obtain ⟨rfl, rfl⟩ := hrest.2 hmore
            rfl
      | _ =>
        constructor
        · nofun
        · intro h
          cases lines with
          | nil => cases h
          | cons line more => cases h

theorem ownMethod_eq_ok_iff : s.ownMethod = .ok line? ↔
    ∃ lines, DeclaresLines s.fields lines ∧ line? = lines.head? := by
  unfold ownMethod
  simp only [← scanMethods_eq_iff]
  rcases scanMethods s.fields with ⟨found, fault⟩
  cases fault with
  | some e => exact ⟨nofun, fun ⟨_, h, _⟩ => nomatch h⟩
  | none =>
    constructor
    · intro h
      cases h
      exact ⟨found, rfl, rfl⟩
    · rintro ⟨lines, h, rfl⟩
      cases h
      rfl

theorem isMalformed_of_scanMethods (h : scanMethods fields = (lines, some e)) :
    e.IsMalformed := by
  induction fields generalizing lines with
  | nil => cases h
  | cons field rest ih =>
    unfold scanMethods at h
    rcases hscan : scanMethods rest with ⟨found, fault⟩
    rw [hscan] at h
    split at h
    · exact ih (hscan.trans h)
    · cases h
      exact ih hscan
    · cases h
      exact .method _ _

theorem isMalformed_of_ownMethod (h : s.ownMethod = .error e) : e.IsMalformed := by
  unfold ownMethod at h
  split at h
  · next hscan =>
    cases h
    exact isMalformed_of_scanMethods hscan
  · cases h

/-! ## Sections of members -/

/-- The members of a section: those of an object, and none where there is no such section. -/
inductive DeclaresMembers (s : Script) (key : String) : List (String × Json) → Prop where
  | absent (hfield : OrderedMap.get? s.fields key = none) : DeclaresMembers s key []
  | present {members : List (String × Json)}
      (hfield : OrderedMap.get? s.fields key = some (.object members)) : DeclaresMembers s key members

theorem sectionMembers_eq_ok_iff :
    s.sectionMembers key = .ok members ↔ s.DeclaresMembers key members := by
  unfold sectionMembers
  constructor
  · intro h
    split at h
    · next hfield => cases h; exact .absent hfield
    · next hfield => cases h; exact .present hfield
    · cases h
  · rintro (hfield | hfield) <;> rw [hfield]

theorem isMalformed_of_sectionMembers (h : s.sectionMembers key = .error e) : e.IsMalformed := by
  unfold sectionMembers at h
  split at h
  · cases h
  · cases h
  · cases h
    exact .field _ _

/-! ## All sections -/

/-- What a script itself declares: the first of its methods with the URI, and its sections. -/
structure Declares (s : Script) (line? : Option (Method × String)) (own : Layer) : Prop where
  line : ∃ lines, DeclaresLines s.fields lines ∧ line? = lines.head?
  headers : ∃ members, s.DeclaresMembers "headers" members
    ∧ own.headers = members.map fun member => (member.1, member.2.display)
  env : s.DeclaresMembers "env" own.env
  preconditions : s.DeclaresRules .precondition own.preconditions
  extractors : s.DeclaresRules .extraction own.extractors
  assertions : s.DeclaresRules .assertion own.assertions

/-- Every section of the script has the form that it must have. -/
def WellFormed (s : Script) : Prop :=
  ∃ line? own, s.Declares line? own

theorem layer_eq_ok_iff : s.layer = .ok own ↔
    (∃ members, s.DeclaresMembers "headers" members
      ∧ own.headers = members.map fun member => (member.1, member.2.display))
    ∧ s.DeclaresMembers "env" own.env
    ∧ s.DeclaresRules .precondition own.preconditions
    ∧ s.DeclaresRules .extraction own.extractors
    ∧ s.DeclaresRules .assertion own.assertions := by
  unfold layer ownHeaders ownEnv
  simp only [bind_eq_ok_iff, sectionMembers_eq_ok_iff, ownRules_eq_ok_iff, Except.ok.injEq]
  constructor
  · rintro ⟨_, ⟨members, hmembers, rfl⟩, env, henv, pre, hpre, ext, hext, asserts, hasserts, rfl⟩
    exact ⟨⟨members, hmembers, rfl⟩, henv, hpre, hext, hasserts⟩
  · rintro ⟨⟨members, hmembers, hheaders⟩, henv, hpre, hext, hasserts⟩
    exact ⟨_, ⟨members, hmembers, hheaders.symm⟩, _, henv, _, hpre, _, hext, _, hasserts, rfl⟩

/-- **A script is read as what it declares.** -/
theorem declares_iff :
    s.Declares line? own ↔ s.ownMethod = .ok line? ∧ s.layer = .ok own := by
  rw [ownMethod_eq_ok_iff, layer_eq_ok_iff]
  constructor
  · rintro ⟨hline, hheaders, henv, hpre, hext, hasserts⟩
    exact ⟨hline, hheaders, henv, hpre, hext, hasserts⟩
  · rintro ⟨hline, hheaders, henv, hpre, hext, hasserts⟩
    exact ⟨hline, hheaders, henv, hpre, hext, hasserts⟩

/-- **The fault of a script that cannot be read is one of its sections.** -/
theorem isMalformed_of_layer (h : s.layer = .error e) : e.IsMalformed := by
  unfold layer ownHeaders ownEnv at h
  rcases bind_eq_error_iff.1 h with h | ⟨headers, -, h⟩
  · rcases bind_eq_error_iff.1 h with h | ⟨_, -, h⟩
    · exact isMalformed_of_sectionMembers h
    · cases h
  rcases bind_eq_error_iff.1 h with h | ⟨env, -, h⟩
  · exact isMalformed_of_sectionMembers h
  rcases bind_eq_error_iff.1 h with h | ⟨preconditions, -, h⟩
  · exact isMalformed_of_ownRules h
  rcases bind_eq_error_iff.1 h with h | ⟨extractors, -, h⟩
  · exact isMalformed_of_ownRules h
  rcases bind_eq_error_iff.1 h with h | ⟨assertions, -, h⟩
  · exact isMalformed_of_ownRules h
  · cases h

end Script

end RestSuite
