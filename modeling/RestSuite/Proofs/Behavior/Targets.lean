import RestSuite.Behavior.Extractors
import RestSuite.Proofs.Sequencing

/-!
# What an extractor binds

The rule of a standard extractor declares targets, each a variable with what it is to be bound to.
The extractor goes through them in the order of the document and ends at the first one that the
response does not give. What it has bound by then stays bound.

* **`Extractor.Target`**, **`Extractor.targets`** — what a rule declares.
* **`Extractor.Gives`** — when a target is given, and with which value.
* **`Extractor.GathersUpTo`** — targets are bound one after the other, up to one that is not given.
* **`Extractor.standard_collects`** — every standard extractor does this, and binds nothing else.
* **`Extractor.targets_eq_nil_iff`** — which rules have no target.
-/

namespace RestSuite

namespace Extractor

/-! ## Targets -/

/-- Where the text stands in which a pattern is looked for. -/
inductive Subject where
  | header (name : String)
  /-- In the rule itself, to be expanded. -/
  | text (raw : String)

/-- Something that a rule declares. -/
inductive Target where
  /-- The body as a JSON value, under the name that a text expands to. -/
  | json (raw : String)
  /-- The body as a text, under the name that a text expands to. -/
  | text (raw : String)
  | header (name header : String)
  | group (name : String) (subject : Subject) (pattern : String) (index : Nat)
  /-- The part of the body that a path leads to. -/
  | part (name path : String)
  /-- Something that is not written as a rule of its kind asks for. -/
  | malformed

/-- The groups of a pattern, numbered from one, each with its name. -/
def groupTargets (subject : Subject) (pattern : String) (names : List String) : List Target :=
  (names.zipIdx 1).map fun (name, index) => .group name subject pattern index

/-- The targets of a list of a subject, a pattern and at least one name. -/
def specTargets (subject : String → Subject) (parts : List Json) : List Target :=
  match parts.mapM Json.text? with
  | some (source :: pattern :: name :: names) =>
    groupTargets (subject source) pattern (name :: names)
  | _ => [.malformed]

/-- The target of a rule for the whole body. A redirect names a file and no variable. -/
def wholeTargets (target : String → Target) : Json → List Target
  | .string raw => if (redirectPath? raw).isSome then [] else [target raw]
  | _ => [.malformed]

/-- The targets of a member of a rule for headers. -/
def headerTargets : String × Json → List Target
  | (name, .string header) => [.header name header]
  | (_, .array parts) => specTargets .header parts
  | _ => [.malformed]

/-- The target of a member of a rule for parts of the body. -/
def partTarget : String × Json → Target
  | (name, .string path) => .part name path
  | _ => .malformed

def headersTargets : Json → List Target
  | .object members => members.flatMap headerTargets
  | _ => [.malformed]

def partsTargets : Json → List Target
  | .object members => members.map partTarget
  | _ => [.malformed]

def groupsTargets : Json → List Target
  | .array parts => specTargets .text parts
  | _ => [.malformed]

/-- What a rule declares, in the order of the document. -/
def targets (rule : Rule) : List Target :=
  match rule.key with
  | "json" => wholeTargets .json rule.config
  | "text" => wholeTargets .text rule.config
  | "headers" => headersTargets rule.config
  | "jsonPath" => partsTargets rule.config
  | "pattern" => groupsTargets rule.config
  | _ => [.malformed]

/-- A rule that is well written and has no target: its value is a redirect, or it has no members. -/
inductive Targetless (rule : Rule) : Prop where
  | redirected {raw path : String} (hkey : rule.key = "json" ∨ rule.key = "text")
      (hconfig : rule.config = .string raw) (hredirect : redirectPath? raw = some path) :
      Targetless rule
  | memberless (hkey : rule.key = "headers" ∨ rule.key = "jsonPath")
      (hconfig : rule.config = .object []) : Targetless rule

/-- The first header of a name, in whatever letters the name is written, has this value. -/
inductive FirstHeader (headers : List Header) (name value : String) : Prop where
  | intro {before after : List Header} {spelling : String}
      (hheaders : headers = before ++ (spelling, value) :: after)
      (hname : Text.sameIgnoringCase spelling name = true)
      (hbefore : ∀ other ∈ before, Text.sameIgnoringCase other.1 name = false) :
      FirstHeader headers name value

/-- A subject is there, with this text. -/
inductive Subject.Is (scene : Scene) : Subject → String → Prop where
  | header {response : Response} {name text : String} (hresponse : scene.response = some response)
      (hfirst : FirstHeader response.headers name text) : Is scene (.header name) text
  | text {raw text : String} (hexpand : scene.scope.expand raw = .ok text) :
      Is scene (.text raw) text

/-- A target is given under a name with a value, when some values have been bound before it. Paths
are expanded then; the text of a pattern was expanded before any of its groups was bound. -/
inductive Gives (scene : Scene) (bound : List (String × Json)) : Target → String → Json → Prop where
  | json {response : Response} {raw name : String} {body : Json}
      (hresponse : scene.response = some response) (hbody : response.json = .ok body)
      (hname : scene.scope.expand raw = .ok name) : Gives scene bound (.json raw) name body
  | text {response : Response} {raw name body : String}
      (hresponse : scene.response = some response) (hbody : response.text? = some body)
      (hname : scene.scope.expand raw = .ok name) :
      Gives scene bound (.text raw) name (.string body)
  | header {response : Response} {name header value : String}
      (hresponse : scene.response = some response)
      (hfirst : FirstHeader response.headers header value) :
      Gives scene bound (.header name header) name (.string value)
  | group {subject : Subject} {name pattern text value : String} {index : Nat} {compiled : Pattern}
      {found : Pattern.Captures} (hsubject : subject.Is scene text)
      (hpattern : Pattern.ofString pattern = .ok compiled)
      (hfound : compiled.captures? text = some found) (hgroup : found.group? index = some value) :
      Gives scene bound (.group name subject pattern index) name (.string value)
  | part {response : Response} {name path expanded : String} {body value : Json}
      (hresponse : scene.response = some response) (hbody : response.json = .ok body)
      (hpath : (withBound scene bound).scope.expand path = .ok expanded)
      (hvalue : body.select expanded = .ok value) : Gives scene bound (.part name path) name value

/-! ## Targets one after the other -/

/-- Targets are all given, each behind those before it. -/
inductive Gathers (scene : Scene) :
    List (String × Json) → List Target → List (String × Json) → Prop where
  | nil (bound : List (String × Json)) : Gathers scene bound [] []
  | cons {bound values : List (String × Json)} {target : Target} {more : List Target}
      {name : String} {value : Json} (hgives : Gives scene bound target name value)
      (hrest : Gathers scene (bound ++ [(name, value)]) more values) :
      Gathers scene bound (target :: more) ((name, value) :: values)

/-- All targets are given, or those before the first that is not. -/
inductive GathersUpTo (scene : Scene) (bound : List (String × Json)) (targets : List Target)
    (values : List (String × Json)) : Except RuleError Unit → Prop where
  | whole (h : Gathers scene bound targets values) : GathersUpTo scene bound targets values (.ok ())
  | upTo {done after : List Target} {target : Target} {e : RuleError}
      (htargets : targets = done ++ target :: after) (h : Gathers scene bound done values)
      (hmissing : ∀ name value, ¬ Gives scene (bound ++ values) target name value) :
      GathersUpTo scene bound targets values (.error e)

variable {scene : Scene} {rule : Rule} {response : Response} {body : Json}
  {bound values more : List (String × Json)} {result : Except RuleError Unit} {e : RuleError}
  {target : Target} {done rest : List Target}

theorem GathersUpTo.missing (h : ∀ name value, ¬ Gives scene bound target name value)
    (rest : List Target) (e : RuleError) :
    GathersUpTo scene bound (target :: rest) [] (.error e) := by
  have hmissing : ∀ name value, ¬ Gives scene (bound ++ []) target name value := by
    rw [List.append_nil]
    exact h
  exact @GathersUpTo.upTo scene bound _ [] [] rest target e rfl (.nil bound) hmissing

theorem GathersUpTo.cons {name : String} {value : Json}
    (hgives : Gives scene bound target name value)
    (h : GathersUpTo scene (bound ++ [(name, value)]) rest values result) :
    GathersUpTo scene bound (target :: rest) ((name, value) :: values) result := by
  cases h with
  | whole h => exact .whole (.cons hgives h)
  | @upTo done _ _ _ htargets h hmissing =>
    subst htargets
    rw [List.append_assoc] at hmissing
    exact .upTo (congrArg (target :: ·) rfl) (.cons hgives h) hmissing

theorem GathersUpTo.append (h : Gathers scene bound done values)
    (hrest : GathersUpTo scene (bound ++ values) rest more result) :
    GathersUpTo scene bound (done ++ rest) (values ++ more) result := by
  induction h with
  | nil bound =>
    rw [List.append_nil] at hrest
    exact hrest
  | cons hgives _ ih =>
    refine .cons hgives (ih ?_)
    rw [List.append_assoc]
    exact hrest

/-- Targets behind one that is not given do not matter. -/
theorem GathersUpTo.extend (h : GathersUpTo scene bound done values (.error e))
    (rest : List Target) : GathersUpTo scene bound (done ++ rest) values (.error e) := by
  cases h with
  | upTo htargets h hmissing =>
    subst htargets
    exact .upTo (List.append_assoc _ _ _) h hmissing

/-- Where no target is given, none is bound. -/
theorem gathersUpTo_of_none
    (h : ∀ target ∈ done, ∀ name value, ¬ Gives scene bound target name value) (e : RuleError) :
    GathersUpTo scene bound done [] (.error e) ∨ done = [] := by
  cases done with
  | nil => exact .inr rfl
  | cons target rest => exact .inl (.missing (h target List.mem_cons_self) rest e)

theorem firstHeader_iff {name value : String} :
    FirstHeader response.headers name value ↔ response.header? name = some value := by
  unfold Response.header?
  rw [Option.map_eq_some_iff]
  constructor
  · rintro ⟨hheaders, hname, hbefore⟩
    refine ⟨(_, value), List.find?_eq_some_iff_append.2 ⟨hname, _, _, hheaders, ?_⟩, rfl⟩
    intro other hother
    rw [hbefore other hother]
    rfl
  · rintro ⟨⟨spelling, value⟩, hfind, rfl⟩
    obtain ⟨hname, before, after, hheaders, hbefore⟩ := List.find?_eq_some_iff_append.1 hfind
    exact .intro hheaders hname fun other hother => by simpa using hbefore other hother

theorem not_gives_malformed (name : String) (value : Json) :
    ¬ Gives scene bound .malformed name value := nofun

/-! ## Subjects -/

theorem header_is_iff (hresponse : scene.response = some response) {name text : String} :
    (Subject.header name).Is scene text ↔ response.header? name = some text := by
  constructor
  · intro h
    cases h with
    | header hresponse' hfirst =>
      cases hresponse.symm.trans hresponse'
      exact firstHeader_iff.1 hfirst
  · exact fun h => .header hresponse (firstHeader_iff.2 h)

theorem Subject.Is.unique {subject : Subject} {text text' : String} (h : subject.Is scene text)
    (h' : subject.Is scene text') : text = text' := by
  cases h with
  | header hresponse hfirst =>
    cases h' with
    | header hresponse' hfirst' =>
      cases hresponse.symm.trans hresponse'
      exact Option.some.inj ((firstHeader_iff.1 hfirst).symm.trans (firstHeader_iff.1 hfirst'))
  | text hexpand =>
    cases h' with
    | text hexpand' => exact Except.ok.inj (hexpand.symm.trans hexpand')

/-- A header that is not there is not given. -/
theorem not_gives_header {header : String} (h : ∀ text, ¬ (Subject.header header).Is scene text)
    (name name' : String) (value : Json) :
    ¬ Gives scene bound (.header name header) name' value := by
  intro hgives
  cases hgives with
  | header hresponse hfirst => exact h _ (.header hresponse hfirst)

/-! ## Groups of patterns -/

section Groups

variable {subject : Subject} {text pattern : String} {compiled : Pattern} {found : Pattern.Captures}

/-- A group is given only if its subject is matched by the pattern and the group takes part in the
match. -/
theorem Gives.group_inv {name name' : String} {value : Json} {index : Nat}
    (h : Gives scene bound (.group name subject pattern index) name' value)
    (hsubject : subject.Is scene text) :
    ∃ compiled found part, Pattern.ofString pattern = .ok compiled
      ∧ compiled.captures? text = some found ∧ found.group? index = some part := by
  cases h with
  | group hsubject' hpattern hfound hgroup =>
    obtain rfl := hsubject.unique hsubject'
    exact ⟨_, _, _, hpattern, hfound, hgroup⟩

/-- Groups are bound from the first to the last, up to one that took no part in the match. -/
theorem nameGroups_gathers (hsubject : subject.Is scene text)
    (hpattern : Pattern.ofString pattern = .ok compiled)
    (hfound : compiled.captures? text = some found) (names : List String) (index : Nat)
    (bound : List (String × Json)) :
    GathersUpTo scene bound
      ((names.zipIdx index).map fun (name, index) => .group name subject pattern index)
      (nameGroups pattern found index names).1 (nameGroups pattern found index names).2 := by
  induction names generalizing index bound with
  | nil => exact .whole (.nil bound)
  | cons name names ih =>
    rw [List.zipIdx_cons, List.map_cons]
    unfold nameGroups
    cases hgroup : found.group? index with
    | some value => exact .cons (.group hsubject hpattern hfound hgroup) (ih (index + 1) _)
    | none =>
      refine .missing (fun name' value hgives => ?_) _ _
      obtain ⟨compiled', found', part, hpattern', hfound', hgroup'⟩ := hgives.group_inv hsubject
      cases hpattern.symm.trans hpattern'
      cases hfound.symm.trans hfound'
      cases hgroup.symm.trans hgroup'

theorem takeGroups_gathers (rule : Rule) (hsubject : subject.Is scene text) (pattern name : String)
    (names : List String) (bound : List (String × Json)) :
    GathersUpTo scene bound (groupTargets subject pattern (name :: names))
      (takeGroups rule text pattern (name :: names)).1
      (takeGroups rule text pattern (name :: names)).2 := by
  unfold takeGroups
  cases hpattern : Pattern.ofString pattern with
  | error e =>
    refine .missing (fun name' value hgives => ?_) _ _
    obtain ⟨compiled', found', part, hpattern', -, -⟩ := hgives.group_inv hsubject
    cases hpattern.symm.trans hpattern'
  | ok compiled =>
    dsimp only
    cases hfound : compiled.captures? text with
    | none =>
      refine .missing (fun name' value hgives => ?_) _ _
      obtain ⟨compiled', found', part, hpattern', hfound', -⟩ := hgives.group_inv hsubject
      cases hpattern.symm.trans hpattern'
      cases hfound.symm.trans hfound'
    | some found => exact nameGroups_gathers hsubject hpattern hfound (name :: names) 1 bound

/-- Groups of a text that is not there are not given. -/
theorem not_gives_groups (h : ∀ text, ¬ subject.Is scene text) {names : List String} :
    ∀ target ∈ groupTargets subject pattern names, ∀ name value,
      ¬ Gives scene bound target name value := by
  intro target hmem name value hgives
  obtain ⟨⟨name', index⟩, -, rfl⟩ := List.mem_map.1 hmem
  cases hgives with
  | group hsubject _ _ _ => exact h _ hsubject

/-- A list of a subject, a pattern and names has one target for every name, and any other list has
something malformed in their place. -/
theorem groupSpec_cases (rule : Rule) (parts : List Json) :
    (∃ source pattern name names, groupSpec rule parts = .ok (source, pattern, name :: names)
      ∧ ∀ kind, specTargets kind parts = groupTargets (kind source) pattern (name :: names))
    ∨ ∃ e, groupSpec rule parts = .error e ∧ ∀ kind, specTargets kind parts = [.malformed] := by
  unfold groupSpec specTargets
  generalize parts.mapM Json.text? = texts
  rcases texts with _ | _ | ⟨source, _ | ⟨pattern, _ | ⟨name, names⟩⟩⟩
  case some.cons.cons.cons => exact .inl ⟨source, pattern, name, names, rfl, fun _ => rfl⟩
  all_goals exact .inr ⟨_, rfl, fun _ => rfl⟩

theorem specTargets_ne_nil (kind : String → Subject) (parts : List Json) :
    specTargets kind parts ≠ [] := by
  unfold specTargets
  split <;> nofun

end Groups

/-! ## Headers -/

theorem takeHeader_gathers (rule : Rule) (hresponse : scene.response = some response)
    (name : String) (spec : Json) (bound : List (String × Json)) :
    GathersUpTo scene bound (headerTargets (name, spec)) (takeHeader rule response name spec).1
      (takeHeader rule response name spec).2 := by
  have hnone : ∀ {header : String}, response.header? header = none →
      ∀ text, ¬ (Subject.header header).Is scene text := by
    intro header hmissing text hsubject
    rw [header_is_iff hresponse, hmissing] at hsubject
    cases hsubject
  cases spec with
  | string header =>
    unfold takeHeader headerTargets headerValue takeOne
    dsimp only
    cases hvalue : response.header? header with
    | some value => exact .cons (.header hresponse (firstHeader_iff.2 hvalue)) (.whole (.nil _))
    | none => exact .missing (not_gives_header (hnone hvalue) name) _ _
  | array parts =>
    unfold takeHeader headerTargets
    dsimp only
    rcases groupSpec_cases rule parts with
      ⟨header, pattern, name, names, hspec, htargets⟩ | ⟨e, hspec, htargets⟩
    · rw [hspec, htargets]
      dsimp only
      unfold headerValue
      cases hvalue : response.header? header with
      | some value =>
        have hsubject := (header_is_iff hresponse).2 hvalue
        exact takeGroups_gathers rule hsubject pattern name names bound
      | none =>
        have hgroups : ∀ target ∈ groupTargets (.header header) pattern (name :: names),
            ∀ name value, ¬ Gives scene bound target name value :=
          not_gives_groups (hnone hvalue)
        exact .missing (hgroups _ List.mem_cons_self) _ _
    · rw [hspec, htargets]
      exact .missing not_gives_malformed _ _
  | _ => exact .missing not_gives_malformed _ _

theorem takeEach_gathers (rule : Rule) (hresponse : scene.response = some response)
    (members : List (String × Json)) (bound : List (String × Json)) :
    GathersUpTo scene bound (members.flatMap headerTargets)
      (takeEach (takeHeader rule response) members).1
      (takeEach (takeHeader rule response) members).2 := by
  -- a member has several targets, so those of one member are put before those of the others
  induction members generalizing bound with
  | nil => exact .whole (.nil bound)
  | cons member rest ih =>
    obtain ⟨name, spec⟩ := member
    have hown := takeHeader_gathers rule hresponse name spec bound
    rw [List.flatMap_cons]
    unfold takeEach
    generalize takeHeader rule response name spec = taken at hown ⊢
    obtain ⟨own, result⟩ := taken
    cases result with
    | error e => exact hown.extend _
    | ok _ =>
      cases hown with
      | whole hown => exact .append hown (ih (bound ++ own))

/-- Without a response no target of a rule for headers is given. -/
theorem not_gives_headers (h : scene.response = none) (rule : Rule) (member : String × Json) :
    ∀ target ∈ headerTargets member, ∀ name value, ¬ Gives scene bound target name value := by
  have hnone : ∀ header text, ¬ (Subject.header header).Is scene text := by
    intro header text hsubject
    cases hsubject with
    | header hresponse _ => cases h.symm.trans hresponse
  obtain ⟨name, spec⟩ := member
  cases spec with
  | string header => exact List.forall_mem_singleton.2 (not_gives_header (hnone header) name)
  | array parts =>
    unfold headerTargets
    dsimp only
    rcases groupSpec_cases rule parts with ⟨header, pattern, _, _, -, htargets⟩ | ⟨e, -, htargets⟩
    · rw [htargets]
      exact not_gives_groups (hnone header)
    · rw [htargets]
      exact List.forall_mem_singleton.2 not_gives_malformed
  | _ => exact List.forall_mem_singleton.2 not_gives_malformed

theorem headerTargets_ne_nil (member : String × Json) : headerTargets member ≠ [] := by
  obtain ⟨name, spec⟩ := member
  cases spec with
  | array parts => exact specTargets_ne_nil .header parts
  | _ => nofun

/-! ## Parts of the body -/

theorem withBound_append (scene : Scene) (bound more : List (String × Json)) :
    withBound (withBound scene bound) more = withBound scene (bound ++ more) := by
  unfold withBound
  rw [List.foldl_append]

theorem partAt_ok_iff {name : String} {path : Json} {value : Json} :
    partAt rule scene body name path = .ok value ↔
      ∃ text expanded, path = .string text ∧ scene.scope.expand text = .ok expanded
        ∧ body.select expanded = .ok value := by
  unfold partAt
  split
  · next text =>
    rw [bind_eq_ok_iff]
    constructor
    · rintro ⟨expanded, hexpand, hselect⟩
      exact ⟨text, expanded, rfl, mapError_eq_ok_iff.1 hexpand, mapError_eq_ok_iff.1 hselect⟩
    · rintro ⟨_, expanded, htext, hexpand, hselect⟩
      cases htext
      exact ⟨expanded, mapError_eq_ok_iff.2 hexpand, mapError_eq_ok_iff.2 hselect⟩
  · next hother =>
    exact iff_of_false nofun fun ⟨text, _, htext, _⟩ => hother text htext

/-- A part is given exactly if its path leads there when it is its turn. -/
theorem gives_part_iff (hresponse : scene.response = some response)
    (hbody : response.json = .ok body) {name : String} {path value : Json} :
    (∃ name', Gives scene bound (partTarget (name, path)) name' value) ↔
      partAt rule (withBound scene bound) body name path = .ok value := by
  rw [partAt_ok_iff]
  constructor
  · rintro ⟨name', hgives⟩
    unfold partTarget at hgives
    split at hgives
    · next heq =>
      obtain ⟨rfl, rfl⟩ := Prod.mk.inj heq
      cases hgives with
      | part hresponse' hbody' hpath hvalue =>
        cases hresponse.symm.trans hresponse'
        cases hbody.symm.trans hbody'
        exact ⟨_, _, rfl, hpath, hvalue⟩
    · exact absurd hgives (not_gives_malformed _ _)
  · rintro ⟨text, expanded, rfl, hpath, hvalue⟩
    exact ⟨name, .part hresponse hbody hpath hvalue⟩

/-- Parts are taken in the order of the members, and every path is expanded when it is its turn. -/
theorem takeParts_gathers (rule : Rule) (hresponse : scene.response = some response)
    (hbody : response.json = .ok body) (members : List (String × Json))
    (bound : List (String × Json)) :
    GathersUpTo scene bound (members.map partTarget)
      (takeParts rule body (withBound scene bound) members).1
      (takeParts rule body (withBound scene bound) members).2 := by
  -- what has been bound grows with every member, and with it what a path expands to
  induction members generalizing bound with
  | nil => exact .whole (.nil bound)
  | cons member rest ih =>
    obtain ⟨name, path⟩ := member
    rw [List.map_cons]
    unfold takeParts
    cases hpart : partAt rule (withBound scene bound) body name path with
    | error e =>
      refine .missing (fun name' value hgives => ?_) _ _
      have hgiven : partAt rule (withBound scene bound) body name path = .ok value :=
        (gives_part_iff hresponse hbody).1 ⟨name', hgives⟩
      cases hpart.symm.trans hgiven
    | ok value =>
      obtain ⟨text, expanded, rfl, hpath, hvalue⟩ := partAt_ok_iff.1 hpart
      have hrest := ih (bound ++ [(name, value)])
      rw [← withBound_append] at hrest
      exact .cons (.part hresponse hbody hpath hvalue) hrest

/-! ## Extractors -/

/-- An extractor binds the targets of a list up to one that is not given. If there are none, it
binds nothing, however it ends. -/
def Collects (scene : Scene) (targets : List Target) (x : Extraction) : Prop :=
  ∃ values : List (String × Json), x.edits = values.map (fun v => .bind v.1 v.2)
    ∧ (GathersUpTo scene [] targets values x.result ∨ targets = [] ∧ values = [])

theorem collects_binding {targets : List Target} {taken : Taken}
    (h : GathersUpTo scene [] targets taken.1 taken.2) :
    Collects scene targets (binding scene taken) :=
  ⟨taken.1, rfl, .inl h⟩

/-- An error before the first target comes where none of them is given. -/
theorem collects_error {targets : List Target}
    (h : ∀ target ∈ targets, ∀ name value, ¬ Gives scene [] target name value) (e : RuleError) :
    Collects scene targets (orFail scene (.error e)) := by
  refine ⟨[], rfl, ?_⟩
  rcases gathersUpTo_of_none h e with hnone | rfl
  · exact .inl hnone
  · exact .inr ⟨rfl, rfl⟩

theorem getResponse_eq_ok_iff :
    scene.getResponse = .ok response ↔ scene.response = some response := by
  unfold Scene.getResponse
  cases scene.response with
  | none => exact ⟨nofun, nofun⟩
  | some other => exact ⟨fun h => by cases h; rfl, fun h => by cases h; rfl⟩

theorem responseJson_eq_ok_iff :
    scene.responseJson = .ok body ↔
      ∃ response, scene.response = some response ∧ response.json = .ok body := by
  unfold Scene.responseJson
  simp only [bind_eq_ok_iff, getResponse_eq_ok_iff, mapError_eq_ok_iff]

theorem responseText_eq_ok_iff {text : String} :
    scene.responseText = .ok text ↔
      ∃ response, scene.response = some response ∧ response.text? = some text := by
  unfold Scene.responseText
  rw [bind_eq_ok_iff]
  refine exists_congr fun response => and_congr getResponse_eq_ok_iff ?_
  cases response.text? with
  | none => exact ⟨nofun, nofun⟩
  | some other => exact ⟨fun h => by cases h; rfl, fun h => by cases h; rfl⟩

/-- What is written to a file is bound to no variable. -/
theorem edits_of_write {β : Type} (found : Except RuleError β) (content : β → String)
    (path : String) :
    (orFail scene do
      let b ← found
      write scene path (content b)).edits = [] := by
  cases found with
  | error e => rfl
  | ok b =>
    rw [ok_bind]
    unfold write
    cases scene.expand path with
    | error e => rfl
    | ok expanded =>
      rw [ok_bind]
      dsimp only
      cases scene.scope.disk.writeText (Path.resolve expanded scene.scope.baseDirectory)
        (content b) <;> rfl

/-- A body as a whole is bound under its name, or written to a file. -/
theorem collects_whole {β : Type} (kind : String → Target) (found : Except RuleError β)
    (content : β → String) (value : β → Json)
    (hgives : ∀ raw name given, Gives scene [] (kind raw) name given ↔
      ∃ b, found = .ok b ∧ scene.scope.expand raw = .ok name ∧ given = value b) :
    Collects scene (wholeTargets kind rule.config) (orFail scene do
      let name ← Extractor.target rule
      let b ← found
      store scene name (content b) (value b)) := by
  unfold Extractor.target wholeTargets
  cases rule.config with
  | string raw =>
    rw [ok_bind]
    dsimp only
    -- a redirect is looked for before the name is expanded
    cases hredirect : redirectPath? raw with
    | some path =>
      refine ⟨[], ?_, .inr ⟨rfl, rfl⟩⟩
      unfold store
      rw [hredirect]
      exact edits_of_write found content path
    | none =>
      dsimp only [Option.isSome_none]
      rw [if_neg Bool.false_ne_true]
      cases hfound : found with
      | error e =>
        refine collects_error (List.forall_mem_singleton.2 fun name given h => ?_) e
        obtain ⟨b, hb, -⟩ := (hgives raw name given).1 h
        cases hfound.symm.trans hb
      | ok b =>
        rw [ok_bind]
        unfold store
        rw [hredirect]
        dsimp only
        unfold Scene.expand
        cases hexpand : scene.scope.expand raw with
        | error e =>
          refine collects_error (List.forall_mem_singleton.2 fun name given h => ?_) (.binding e)
          obtain ⟨-, -, hname, -⟩ := (hgives raw name given).1 h
          cases hexpand.symm.trans hname
        | ok name =>
          have hgiven := (hgives raw name (value b)).2 ⟨b, hfound, hexpand, rfl⟩
          exact collects_binding (.cons hgiven (.whole (.nil _)))
  | _ => exact collects_error (List.forall_mem_singleton.2 not_gives_malformed) _

theorem collects_json : Collects scene (wholeTargets .json rule.config) (json rule scene) := by
  refine collects_whole .json scene.responseJson Json.prettyText id fun raw name given => ?_
  simp only [responseJson_eq_ok_iff]
  constructor
  · intro h
    cases h with
    | json hresponse hbody hname => exact ⟨_, ⟨_, hresponse, hbody⟩, hname, rfl⟩
  · rintro ⟨body, ⟨response, hresponse, hbody⟩, hname, rfl⟩
    exact .json hresponse hbody hname

theorem collects_text : Collects scene (wholeTargets .text rule.config) (text rule scene) := by
  refine collects_whole .text scene.responseText id Json.string fun raw name given => ?_
  simp only [responseText_eq_ok_iff]
  constructor
  · intro h
    cases h with
    | text hresponse hbody hname => exact ⟨_, ⟨_, hresponse, hbody⟩, hname, rfl⟩
  · rintro ⟨body, ⟨response, hresponse, hbody⟩, hname, rfl⟩
    exact .text hresponse hbody hname

theorem collects_headers : Collects scene (headersTargets rule.config) (headers rule scene) := by
  unfold headersTargets headers
  cases rule.config with
  | object members =>
    dsimp only
    cases hresponse : scene.response with
    | none =>
      have hnone : scene.getResponse = .error (.failed "no response is available") := by
        unfold Scene.getResponse
        rw [hresponse]
      rw [hnone, error_bind]
      refine collects_error (fun target hmem => ?_) _
      obtain ⟨member, -, htarget⟩ := List.mem_flatMap.1 hmem
      exact not_gives_headers hresponse rule member target htarget
    | some response =>
      rw [getResponse_eq_ok_iff.2 hresponse, ok_bind]
      exact collects_binding (takeEach_gathers rule hresponse members [])
  | _ => exact collects_error (List.forall_mem_singleton.2 not_gives_malformed) _

theorem collects_jsonPath : Collects scene (partsTargets rule.config) (jsonPath rule scene) := by
  unfold partsTargets jsonPath
  cases rule.config with
  | object members =>
    dsimp only
    cases hbody : scene.responseJson with
    | error e =>
      rw [error_bind]
      refine collects_error (fun target hmem name value hgives => ?_) e
      obtain ⟨⟨name', path⟩, -, rfl⟩ := List.mem_map.1 hmem
      unfold partTarget at hgives
      split at hgives
      · cases hgives with
        | part hresponse hjson _ _ =>
          cases hbody.symm.trans (responseJson_eq_ok_iff.2 ⟨_, hresponse, hjson⟩)
      · exact not_gives_malformed _ _ hgives
    | ok body =>
      obtain ⟨response, hresponse, hjson⟩ := responseJson_eq_ok_iff.1 hbody
      rw [ok_bind]
      exact collects_binding (takeParts_gathers rule hresponse hjson members [])
  | _ => exact collects_error (List.forall_mem_singleton.2 not_gives_malformed) _

theorem collects_pattern : Collects scene (groupsTargets rule.config) (pattern rule scene) := by
  unfold groupsTargets pattern
  cases rule.config with
  | array parts =>
    rcases groupSpec_cases rule parts with
      ⟨raw, pattern, name, names, hspec, htargets⟩ | ⟨e, hspec, htargets⟩
    · dsimp only
      rw [hspec, htargets, ok_bind]
      dsimp only
      unfold Scene.expand
      cases hexpand : scene.scope.expand raw with
      | error e =>
        refine collects_error (not_gives_groups fun text hsubject => ?_) (.binding e)
        cases hsubject with
        | text hexpand' => cases hexpand.symm.trans hexpand'
      | ok text =>
        exact collects_binding (takeGroups_gathers rule (.text hexpand) pattern name names [])
    · dsimp only
      rw [hspec, htargets, error_bind]
      exact collects_error (List.forall_mem_singleton.2 not_gives_malformed) e
  | _ => exact collects_error (List.forall_mem_singleton.2 not_gives_malformed) _

/-- **Every standard extractor binds its targets up to one that is not given.** -/
theorem standard_collects {σ : Type} {extractor : Extractor σ}
    (h : OrderedMap.get? standard rule.key = some extractor) (scene : Scene)
    (evaluator : Option (Evaluator σ)) (host : σ) :
    Collects scene (targets rule) (extractor rule scene evaluator host).value := by
  have hmem := OrderedMap.mem_of_get? h
  simp only [standard, List.mem_cons, Prod.mk.injEq, List.not_mem_nil, or_false] at hmem
  unfold targets
  rcases hmem with ⟨hkey, rfl⟩ | ⟨hkey, rfl⟩ | ⟨hkey, rfl⟩ | ⟨hkey, rfl⟩ | ⟨hkey, rfl⟩ <;> rw [hkey]
  · exact collects_json
  · exact collects_text
  · exact collects_headers
  · exact collects_jsonPath
  · exact collects_pattern

/-- The targets fall into those that are bound and the rest, which begins with one that is not
given. Nothing is left of them exactly if the extractor succeeds, or if there were none. -/
theorem Collects.upTo {targets : List Target} {x : Extraction} (h : Collects scene targets x) :
    ∃ done rest values, targets = done ++ rest
      ∧ x.edits = values.map (fun v => .bind v.1 v.2) ∧ Gathers scene [] done values
      ∧ (∀ target ∈ rest.head?, ∀ name value, ¬ Gives scene values target name value)
      ∧ (rest = [] ↔ x.result = .ok () ∨ targets = []) := by
  obtain ⟨edits, disk, result⟩ := x
  obtain ⟨values, hedits, hgathers | ⟨hnone, rfl⟩⟩ := h
  · cases hgathers with
    | whole hgiven =>
      have hleft : targets = targets ++ [] := (List.append_nil targets).symm
      exact ⟨targets, [], values, hleft, hedits, hgiven, nofun, iff_of_true rfl (.inl rfl)⟩
    | @upTo done after target e htargets hgiven hmissing =>
      refine ⟨done, target :: after, values, htargets, hedits, hgiven, ?_, ?_⟩
      · intro first hfirst
        cases hfirst
        exact hmissing
      · refine iff_of_false nofun ?_
        rintro (hok | hnone)
        · cases hok
        · rw [htargets] at hnone
          cases (List.append_eq_nil_iff.1 hnone).2
  · exact ⟨[], [], [], hnone, hedits, .nil _, nofun, iff_of_true rfl (.inr hnone)⟩

/-! ## Rules without targets -/

theorem wholeTargets_eq_nil_iff {kind : String → Target} {config : Json} :
    wholeTargets kind config = [] ↔
      ∃ raw path, config = .string raw ∧ redirectPath? raw = some path := by
  unfold wholeTargets
  cases config with
  | string raw =>
    dsimp only
    cases hredirect : redirectPath? raw with
    | some path => exact iff_of_true rfl ⟨raw, path, rfl, hredirect⟩
    | none =>
      refine iff_of_false nofun ?_
      rintro ⟨_, path, hraw, hpath⟩
      cases hraw
      cases hredirect.symm.trans hpath
  | _ => exact iff_of_false nofun nofun

theorem headersTargets_eq_nil_iff {config : Json} :
    headersTargets config = [] ↔ config = .object [] := by
  unfold headersTargets
  cases config with
  | object members =>
    dsimp only
    rw [List.flatMap_eq_nil_iff, Json.object.injEq, List.eq_nil_iff_forall_not_mem]
    exact forall₂_congr fun member _ => iff_false_intro (headerTargets_ne_nil member)
  | _ => exact iff_of_false nofun nofun

theorem partsTargets_eq_nil_iff {config : Json} :
    partsTargets config = [] ↔ config = .object [] := by
  unfold partsTargets
  cases config with
  | object members =>
    dsimp only
    rw [List.map_eq_nil_iff, Json.object.injEq]
  | _ => exact iff_of_false nofun nofun

theorem groupsTargets_ne_nil (config : Json) : groupsTargets config ≠ [] := by
  unfold groupsTargets
  cases config with
  | array parts => exact specTargets_ne_nil .text parts
  | _ => nofun

/-- **Only rules without members and redirects have no target.** -/
theorem targets_eq_nil_iff : targets rule = [] ↔ Targetless rule := by
  constructor
  · intro h
    unfold targets at h
    split at h
    · next hkey =>
      obtain ⟨raw, path, hconfig, hredirect⟩ := wholeTargets_eq_nil_iff.1 h
      exact .redirected (.inl hkey) hconfig hredirect
    · next hkey =>
      obtain ⟨raw, path, hconfig, hredirect⟩ := wholeTargets_eq_nil_iff.1 h
      exact .redirected (.inr hkey) hconfig hredirect
    · next hkey => exact .memberless (.inl hkey) (headersTargets_eq_nil_iff.1 h)
    · next hkey => exact .memberless (.inr hkey) (partsTargets_eq_nil_iff.1 h)
    · exact absurd h (groupsTargets_ne_nil _)
    · cases h
  · intro h
    unfold targets
    cases h with
    | redirected hkey hconfig hredirect =>
      have hnone : ∀ kind, wholeTargets kind rule.config = [] :=
        fun kind => wholeTargets_eq_nil_iff.2 ⟨_, _, hconfig, hredirect⟩
      rcases hkey with hkey | hkey <;> rw [hkey] <;> exact hnone _
    | memberless hkey hconfig =>
      rcases hkey with hkey | hkey <;> rw [hkey, hconfig] <;> rfl

end Extractor

end RestSuite
