import RestSuite.Behavior.Registry
import RestSuite.Proofs.Sequencing

/-!
# Behaviors without redirects

A text can name a file only by its first character. Where the texts of a rule do not begin with the
sign of a redirect, no standard behavior reads or writes a file, whatever the variables of these
texts stand for: expansion looks for the sign before it fills anything in.

* **`IsInline`**, **`Rule.IsInline`** — texts that are meant as they are written.
* **`Scene.expand_onDisk`** — such a text expands in the same way on every disk.
* **`Assertion.standard_onDisk`**, **`Extractor.standard_onDisk`** — with such rules, the standard
  behaviors do the same on every disk and leave it as it is.
-/

namespace RestSuite

/-! ## Texts -/

/-- The text does not begin with the sign of a redirect. -/
def IsInline (text : String) : Prop :=
  text.toList.head? ≠ some '@'

instance (text : String) : Decidable (IsInline text) :=
  inferInstanceAs (Decidable (_ ≠ _))

/-- A text stands in a value: it is the value, or it stands in an item or a member. -/
inductive Json.Holds (text : String) : Json → Prop where
  | self : Holds text (.string text)
  | item {items : List Json} {item : Json} (hmem : item ∈ items) (h : Holds text item) :
      Holds text (.array items)
  | member {members : List (String × Json)} {name : String} {value : Json}
      (hmem : (name, value) ∈ members) (h : Holds text value) : Holds text (.object members)

/-- No text in the configuration of the rule begins with the sign of a redirect. -/
def Rule.IsInline (rule : Rule) : Prop :=
  ∀ text, rule.config.Holds text → RestSuite.IsInline text

theorem Rule.isInline_of_string {rule : Rule} {text : String} (hconfig : rule.config = .string text)
    (h : RestSuite.IsInline text) : rule.IsInline := by
  intro text' hholds
  rw [hconfig] at hholds
  cases hholds
  exact h

variable {raw : String} {scene : Scene} {disk : Disk} {rule : Rule}

theorem redirectPath?_of_isInline (h : IsInline raw) : redirectPath? raw = none := by
  unfold redirectPath?
  split
  · next hsign =>
    refine absurd ?_ h
    rw [hsign]
    rfl
  · rfl

/-- The same scene, with other files. -/
def Scene.onDisk (scene : Scene) (disk : Disk) : Scene :=
  { scene with scope := { scene.scope with disk := disk } }

/-- A text without the sign is filled in, and no file is looked at. -/
theorem Scope.expand_of_isInline (s : Scope) (h : IsInline raw) :
    s.expand raw = s.bindings.substitute raw := by
  unfold Scope.expand Scope.resolveRedirect
  rw [redirectPath?_of_isInline h]
  rfl

/-- **A text without the sign expands in the same way on every disk.** -/
theorem Scene.expand_onDisk (h : IsInline raw) :
    (scene.onDisk disk).expand raw = scene.expand raw := by
  unfold Scene.expand
  rw [Scope.expand_of_isInline _ h, Scope.expand_of_isInline _ h]
  rfl

/-- Lines without the sign make up a text without it. -/
theorem isInline_intercalate {lines : List String} (h : ∀ line ∈ lines, IsInline line) :
    IsInline (String.intercalate "\n" lines) := by
  unfold IsInline
  rw [String.toList_intercalate]
  cases lines with
  | nil => nofun
  | cons line rest =>
    have hline := h line List.mem_cons_self
    unfold IsInline at hline
    cases rest with
    | nil =>
      rw [List.map_singleton, List.intercalate_singleton]
      exact hline
    | cons next rest =>
      rw [List.map_cons, List.map_cons, List.intercalate_cons_cons]
      -- behind an empty first line comes the end of the line
      cases hchars : line.toList with
      | nil => nofun
      | cons c cs =>
        rw [hchars] at hline
        exact hline

/-! ## Assertions -/

namespace Assertion

theorem status_onDisk (h : rule.IsInline) :
    status rule (scene.onDisk disk) = status rule scene := by
  obtain ⟨stage, key, config, required, source⟩ := rule
  cases config with
  | string text =>
    unfold status
    simp only [Scene.expand_onDisk (h text .self)]
    rfl
  | _ => rfl

theorem checkHeaders_onDisk {response : Response} {members : List (String × Json)}
    (h : ∀ name text, (name, .string text) ∈ members → IsInline text) :
    checkHeaders rule (scene.onDisk disk) response members =
      checkHeaders rule scene response members := by
  induction members with
  | nil => rfl
  | cons member rest ih =>
    obtain ⟨name, value⟩ := member
    have hrest := ih fun name text hmem => h name text (List.mem_cons_of_mem _ hmem)
    cases value with
    | string text =>
      simp only [checkHeaders, Scene.expand_onDisk (h name text List.mem_cons_self), hrest]
    | _ => rfl

theorem headers_onDisk (h : rule.IsInline) :
    headers rule (scene.onDisk disk) = headers rule scene := by
  obtain ⟨stage, key, config, required, source⟩ := rule
  cases config with
  | object members =>
    have hmembers : ∀ name text, (name, Json.string text) ∈ members → IsInline text :=
      fun name text hmem => h text (.member hmem .self)
    unfold headers
    simp only [checkHeaders_onDisk hmembers]
    rfl
  | _ => rfl

theorem operand_onDisk {value : Json} (h : ∀ text, value.Holds text → IsInline text) :
    operand (scene.onDisk disk) value = operand scene value := by
  cases value with
  | string text =>
    unfold operand
    simp only [Scene.expand_onDisk (h text .self)]
  | _ => rfl

theorem equal_onDisk (h : rule.IsInline) : equal rule (scene.onDisk disk) = equal rule scene := by
  obtain ⟨stage, key, config, required, source⟩ := rule
  cases config with
  | array items =>
    have hitem : ∀ item ∈ items, operand (scene.onDisk disk) item = operand scene item :=
      fun item hmem => operand_onDisk fun text htext => h text (.item hmem htext)
    -- two operands, or two operands and a distance; all other lists are refused before any expansion
    rcases items with _ | ⟨left, _ | ⟨right, _ | ⟨epsilon, _ | ⟨more, rest⟩⟩⟩⟩
    · simp only [equal, error_bind]
    · simp only [equal, error_bind]
    · have hleft := hitem left List.mem_cons_self
      have hright := hitem right (List.mem_cons_of_mem _ List.mem_cons_self)
      simp only [equal, ok_bind, hleft, hright]
    · have hleft := hitem left List.mem_cons_self
      have hright := hitem right (List.mem_cons_of_mem _ List.mem_cons_self)
      cases hdistance : epsilon.float? with
      | none => simp only [equal, hdistance, error_bind]
      | some distance => simp only [equal, hdistance, ok_bind, hleft, hright]
    · simp only [equal, error_bind]
  | _ => simp only [equal, error_bind]

theorem json_onDisk (h : rule.IsInline) : json rule (scene.onDisk disk) = json rule scene := by
  obtain ⟨stage, key, config, required, source⟩ := rule
  cases config with
  | string text =>
    unfold json
    simp only [Scene.expand_onDisk (h text .self)]
    rfl
  | _ => rfl

theorem mem_of_strings {items : List Json} {lines : List String} (h : strings items = some lines) :
    ∀ line ∈ lines, .string line ∈ items := by
  have hitems : List.Forall₂ (fun item line => item.text? = some line) items lines :=
    option_mapM_eq_some_iff.1 h
  induction hitems with
  | nil => exact List.forall_mem_nil _
  | @cons item line items lines hitem hrest ih =>
    have hself : item = .string line := by
      cases item <;> cases hitem
      rfl
    rw [hself]
    have hmore := ih (option_mapM_eq_some_iff.2 hrest)
    exact List.forall_mem_cons.2
      ⟨List.mem_cons_self, fun line hline => List.mem_cons_of_mem _ (hmore line hline)⟩

theorem text_onDisk (h : rule.IsInline) : text rule (scene.onDisk disk) = text rule scene := by
  obtain ⟨stage, key, config, required, source⟩ := rule
  cases config with
  | string raw =>
    unfold text
    simp only [ok_bind, Scene.expand_onDisk (h raw .self)]
    rfl
  | array items =>
    unfold text
    cases hlines : strings items with
    | none =>
      simp only [hlines]
      rfl
    | some lines =>
      have hinline : IsInline (String.intercalate "\n" lines) :=
        isInline_intercalate fun line hline => h line (.item (mem_of_strings hlines line hline) .self)
      simp only [hlines, ok_bind, Scene.expand_onDisk hinline]
      rfl
  | _ => rfl

theorem eval_onDisk {σ : Type} (h : rule.IsInline) (evaluator : Option (Evaluator σ)) (host : σ) :
    eval rule (scene.onDisk disk) evaluator host = eval rule scene evaluator host := by
  obtain ⟨stage, key, config, required, source⟩ := rule
  cases config with
  | string raw =>
    unfold eval
    simp only [Scene.expand_onDisk (h raw .self)]
    rfl
  | _ => rfl

/-- **The standard assertions do not see the disk.** -/
theorem standard_onDisk {σ : Type} (h : rule.IsInline) {key : String} {assertion : Assertion σ}
    (hkey : OrderedMap.get? standard key = some assertion) (evaluator : Option (Evaluator σ))
    (host : σ) :
    assertion rule (scene.onDisk disk) evaluator host = assertion rule scene evaluator host := by
  have hcheck : ∀ {check : Check}, check rule (scene.onDisk disk) = check rule scene →
      ofCheck check rule (scene.onDisk disk) evaluator host =
        ofCheck check rule scene evaluator host :=
    fun heq => congrArg (Reply.pure · host) heq
  have hmem := OrderedMap.mem_of_get? hkey
  simp only [standard, List.mem_cons, Prod.mk.injEq, List.not_mem_nil, or_false] at hmem
  rcases hmem with ⟨-, rfl⟩ | ⟨-, rfl⟩ | ⟨-, rfl⟩ | ⟨-, rfl⟩ | ⟨-, rfl⟩ | ⟨-, rfl⟩ | ⟨-, rfl⟩
  · exact hcheck (status_onDisk h)
  · exact hcheck (headers_onDisk h)
  · rfl
  · exact hcheck (equal_onDisk h)
  · exact hcheck (json_onDisk h)
  · exact hcheck (text_onDisk h)
  · exact eval_onDisk h evaluator host

end Assertion

/-! ## Extractors -/

/-- The same changes of the variables, with another disk. -/
def Extraction.onDisk (x : Extraction) (disk : Disk) : Extraction :=
  { x with disk := disk }

namespace Extractor

theorem orFail_onDisk {x x' : Except RuleError Extraction}
    (h : x' = x.map fun extraction => extraction.onDisk disk) :
    orFail (scene.onDisk disk) x' = (orFail scene x).onDisk disk := by
  subst h
  cases x <;> rfl

/-- What is bound under a name that is no redirect is bound on every disk. -/
theorem store_onDisk {target content : String} {value : Json} (h : IsInline target) :
    store (scene.onDisk disk) target content value =
      (store scene target content value).map fun extraction => extraction.onDisk disk := by
  unfold store
  rw [redirectPath?_of_isInline h]
  dsimp only
  rw [Scene.expand_onDisk h]
  cases scene.expand target <;> rfl

theorem isInline_of_target (h : rule.IsInline) {name : String} (htarget : target rule = .ok name) :
    IsInline name := by
  unfold target at htarget
  split at htarget
  · next hconfig =>
    cases htarget
    exact h _ (hconfig ▸ .self)
  · cases htarget

/-- A body is stored as a whole in the same way on every disk. -/
theorem stored_onDisk {β : Type} (h : rule.IsInline) (body : Except RuleError β)
    (content : β → String) (value : β → Json) :
    (orFail (scene.onDisk disk) do
      let name ← target rule
      let whole ← body
      store (scene.onDisk disk) name (content whole) (value whole)) =
    (orFail scene do
      let name ← target rule
      let whole ← body
      store scene name (content whole) (value whole)).onDisk disk := by
  refine orFail_onDisk ?_
  cases htarget : target rule with
  | error e => rfl
  | ok name =>
    cases body with
    | error e => rfl
    | ok whole => exact store_onDisk (isInline_of_target h htarget)

theorem json_onDisk (h : rule.IsInline) :
    json rule (scene.onDisk disk) = (json rule scene).onDisk disk :=
  stored_onDisk h scene.responseJson Json.prettyText id

theorem text_onDisk (h : rule.IsInline) :
    text rule (scene.onDisk disk) = (text rule scene).onDisk disk :=
  stored_onDisk h scene.responseText id Json.string

theorem headers_onDisk : headers rule (scene.onDisk disk) = (headers rule scene).onDisk disk := by
  refine orFail_onDisk ?_
  -- names of headers are not expanded, so nothing is asked of the configuration
  cases rule.config with
  | object members =>
    have hresponse : (scene.onDisk disk).getResponse = scene.getResponse := rfl
    rw [hresponse]
    cases scene.getResponse <;> rfl
  | _ => rfl

theorem takeParts_onDisk {body : Json} {members : List (String × Json)}
    (h : ∀ name text, (name, .string text) ∈ members → IsInline text) :
    takeParts rule body (scene.onDisk disk) members = takeParts rule body scene members := by
  -- every member binds a variable, so the induction is about all scenes
  induction members generalizing scene with
  | nil => rfl
  | cons member rest ih =>
    obtain ⟨name, path⟩ := member
    have hpart : partAt rule (scene.onDisk disk) body name path = partAt rule scene body name path := by
      cases path with
      | string text =>
        unfold partAt
        simp only [Scene.expand_onDisk (h name text List.mem_cons_self)]
      | _ => rfl
    have hrest : ∀ value,
        takeParts rule body (withBound (scene.onDisk disk) [(name, value)]) rest =
          takeParts rule body (withBound scene [(name, value)]) rest :=
      fun value => @ih (withBound scene [(name, value)])
        fun name text hmem => h name text (List.mem_cons_of_mem _ hmem)
    simp only [takeParts, hpart, hrest]

theorem jsonPath_onDisk (h : rule.IsInline) :
    jsonPath rule (scene.onDisk disk) = (jsonPath rule scene).onDisk disk := by
  refine orFail_onDisk ?_
  obtain ⟨stage, key, config, required, source⟩ := rule
  cases config with
  | object members =>
    have hmembers : ∀ name text, (name, Json.string text) ∈ members → IsInline text :=
      fun name text hmem => h text (.member hmem .self)
    have hbody : (scene.onDisk disk).responseJson = scene.responseJson := rfl
    simp only [hbody, takeParts_onDisk hmembers]
    cases scene.responseJson <;> rfl
  | _ => rfl

theorem mem_of_groupSpec {parts : List Json} {subject pattern : String} {names : List String}
    (h : groupSpec rule parts = .ok (subject, pattern, names)) : .string subject ∈ parts := by
  unfold groupSpec at h
  split at h
  · next hparts =>
    cases h
    exact Assertion.mem_of_strings hparts _ List.mem_cons_self
  · cases h

theorem pattern_onDisk (h : rule.IsInline) :
    pattern rule (scene.onDisk disk) = (pattern rule scene).onDisk disk := by
  refine orFail_onDisk ?_
  obtain ⟨stage, key, config, required, source⟩ := rule
  cases config with
  | array parts =>
    dsimp only
    cases hspec : groupSpec ⟨stage, key, .array parts, required, source⟩ parts with
    | error e => rfl
    | ok spec =>
      obtain ⟨subject, pattern, names⟩ := spec
      have hsubject : IsInline subject := h subject (.item (mem_of_groupSpec hspec) .self)
      simp only [ok_bind, Scene.expand_onDisk hsubject]
      cases scene.expand subject <;> rfl
  | _ => rfl

/-- **The standard extractors neither see the disk nor change it.** -/
theorem standard_onDisk {σ : Type} (h : rule.IsInline) {key : String} {extractor : Extractor σ}
    (hkey : OrderedMap.get? standard key = some extractor) (evaluator : Option (Evaluator σ))
    (host : σ) :
    extractor rule (scene.onDisk disk) evaluator host =
      (extractor rule scene evaluator host).map fun extraction => extraction.onDisk disk := by
  have htaker : ∀ {take : Taker}, take rule (scene.onDisk disk) = (take rule scene).onDisk disk →
      ofTaker take rule (scene.onDisk disk) evaluator host =
        (ofTaker take rule scene evaluator host).map fun extraction => extraction.onDisk disk :=
    fun heq => congrArg (Reply.pure · host) heq
  have hmem := OrderedMap.mem_of_get? hkey
  simp only [standard, List.mem_cons, Prod.mk.injEq, List.not_mem_nil, or_false] at hmem
  rcases hmem with ⟨-, rfl⟩ | ⟨-, rfl⟩ | ⟨-, rfl⟩ | ⟨-, rfl⟩ | ⟨-, rfl⟩
  · exact htaker (json_onDisk h)
  · exact htaker (text_onDisk h)
  · exact htaker headers_onDisk
  · exact htaker (jsonPath_onDisk h)
  · exact htaker (pattern_onDisk h)

end Extractor

end RestSuite
