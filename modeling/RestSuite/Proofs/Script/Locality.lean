import RestSuite.Proofs.Script.Registration

/-!
# What the resolution of a script depends on

Templates are found by names, and the names may hold variables. So what a script resolves to could depend
on anything that was defined or bound. It depends on what the climb asks for on its way, and what it asks
for next depends on the answers.

* **`Templates.ClimbsTo`** — the scripts that a climb comes to, with the names it has met by then.
* **`Templates.LooksUp`**, **`Templates.RefersTo`** — the names and the variables that it asks for.
* **`Templates.AgreesAlong`** — another registry and other bindings give the same answers. Then the next
  step is the same (`AgreesAlong.parentName`) and they agree along what remains (`AgreesAlong.up`).
* **`Templates.ancestors_congr`** — so the whole climb is the same.
* **`Templates.asked_of_chain`** — a climb that comes to its end has asked for what is in the chain.
* **`Script.resolve_local`** — what this means for the resolved script.
-/

namespace RestSuite

namespace Templates

variable {t u : Templates} {b b' : Bindings} {s x template : Script} {visited met : List String}
  {above : List Script} {name other : String}

/-! ## What a climb asks for -/

/-- A climb that has met some names and stands at a script comes to a script above it, or stays. By then
it has met the names of the way. -/
inductive ClimbsTo (t : Templates) (b : Bindings) :
    List String → Script → List String → Script → Prop where
  | here (visited : List String) (s : Script) : ClimbsTo t b visited s visited s
  | up {visited met : List String} {s template x : Script} {name : String}
      (hinherits : t.Inherits b s name) (hnew : name ∉ visited)
      (hfound : OrderedMap.get? t name = some template)
      (hrest : ClimbsTo t b (name :: visited) template met x) : ClimbsTo t b visited s met x

/-- The climb looks a name up: a script that it comes to inherits from it, and it is new. -/
def LooksUp (t : Templates) (b : Bindings) (visited : List String) (s : Script) (name : String) :
    Prop :=
  ∃ met x, t.ClimbsTo b visited s met x ∧ t.Inherits b x name ∧ name ∉ met

/-- A script that the climb comes to names its template by a text that refers to the variable. -/
def RefersTo (t : Templates) (b : Bindings) (visited : List String) (s : Script) (name : String) :
    Prop :=
  ∃ met x raw, t.ClimbsTo b visited s met x ∧ x.template = some raw
    ∧ name ∈ Placeholder.referenced raw

/-- What a script inherits from is what its parent is called. -/
theorem inherits_iff : t.Inherits b s name ↔ t.parentName b s = .ok (some name) := by
  refine ⟨Inherits.parentName, fun h => ?_⟩
  rcases t.parent_cases b s with ⟨other, hother⟩ | htop | ⟨other, hunbound⟩
  · cases hother.parentName.symm.trans h
    exact hother
  · cases (htop.parentName b).symm.trans h
  · cases (hunbound.parentName t).symm.trans h

/-- The first name that a climb looks up is that of the parent, if it is new. -/
theorem Inherits.looksUp (h : t.Inherits b s name) (hnew : name ∉ visited) :
    t.LooksUp b visited s name :=
  ⟨visited, s, .here visited s, h, hnew⟩

/-- A climb that finds the parent looks up its name, and what the climb from there looks up. -/
theorem looksUp_iff_of_found (h : t.Inherits b s name) (hnew : name ∉ visited)
    (hfound : OrderedMap.get? t name = some template) :
    t.LooksUp b visited s other ↔ other = name ∨ t.LooksUp b (name :: visited) template other := by
  constructor
  · rintro ⟨met, x, hclimb, hinherits, hother⟩
    cases hclimb with
    | here => exact .inl (hinherits.unique h)
    | up hinherits' _ hfound' hrest =>
      obtain rfl := hinherits'.unique h
      cases hfound'.symm.trans hfound
      exact .inr ⟨met, x, hrest, hinherits, hother⟩
  · rintro (rfl | ⟨met, x, hrest, hinherits, hother⟩)
    · exact h.looksUp hnew
    · exact ⟨met, x, .up h hnew hfound hrest, hinherits, hother⟩

theorem IsTop.not_inherits (h : t.IsTop s) : ¬ t.Inherits b s name := by
  intro hinherits
  cases (h.parentName b).symm.trans hinherits.parentName

/-- Without a parent nothing is looked up. -/
theorem IsTop.not_looksUp (h : t.IsTop s) : ¬ t.LooksUp b visited s name := by
  rintro ⟨met, x, hclimb, hinherits, -⟩
  cases hclimb with
  | here => exact h.not_inherits hinherits
  | up hinherits' _ _ _ => exact h.not_inherits hinherits'

/-! ## The same answers -/

/-- Another registry and other bindings give the same answers to all that the climb asks for. -/
structure AgreesAlong (t : Templates) (b : Bindings) (visited : List String) (s : Script)
    (u : Templates) (b' : Bindings) : Prop where
  /-- The names that it looks up stand for the same templates, or for none. -/
  template : ∀ name, t.LooksUp b visited s name → OrderedMap.get? u name = OrderedMap.get? t name
  /-- There is an implicit template, or there is none. -/
  implicit : OrderedMap.contains u Script.implicitTemplate =
    OrderedMap.contains t Script.implicitTemplate
  /-- The variables that it needs stand for the same texts, or for none. -/
  text : ∀ name, t.RefersTo b visited s name → b'.text? name = b.text? name

/-- The next step is the same. -/
theorem AgreesAlong.parentName (h : t.AgreesAlong b visited s u b') :
    u.parentName b' s = t.parentName b s := by
  have hnamed : s.namedTemplate b' = s.namedTemplate b := by
    unfold Script.namedTemplate
    cases htemplate : s.template with
    | none => rfl
    | some raw =>
      have hfilled : b'.substitute raw = b.substitute raw :=
        Bindings.substitute_congr fun name hname =>
          h.text name ⟨visited, s, raw, .here visited s, htemplate, hname⟩
      simp only [hfilled]
  unfold Templates.parentName
  rw [hnamed, h.implicit]

/-- And they agree along what remains. -/
theorem AgreesAlong.up (h : t.AgreesAlong b visited s u b') (hinherits : t.Inherits b s name)
    (hnew : name ∉ visited) (hfound : OrderedMap.get? t name = some template) :
    t.AgreesAlong b (name :: visited) template u b' where
  template other hother :=
    h.template other ((looksUp_iff_of_found hinherits hnew hfound).2 (.inr hother))
  implicit := h.implicit
  text := by
    rintro other ⟨met, x, raw, hrest, htemplate, hother⟩
    exact h.text other ⟨met, x, raw, .up hinherits hnew hfound hrest, htemplate, hother⟩

/-- **Where the answers are the same, so is the climb.** It goes up as long as new templates are found,
and there are ever fewer of these. -/
theorem ancestors_congr {visited : List String} {s : Script} (h : t.AgreesAlong b visited s u b') :
    u.ancestors b' visited s = t.ancestors b visited s := by
  have hparent := h.parentName
  rcases t.parent_cases b s with ⟨name, hinherits⟩ | htop | ⟨name, hunbound⟩
  · have hinherits' : u.Inherits b' s name :=
      inherits_iff.2 (hparent.trans hinherits.parentName)
    by_cases hmet : name ∈ visited
    · rw [ancestors_of_met hinherits hmet, ancestors_of_met hinherits' hmet]
    · have hlookup := h.template name (hinherits.looksUp hmet)
      cases hfound : OrderedMap.get? t name with
      | none =>
        rw [ancestors_of_missing hinherits hmet hfound,
          ancestors_of_missing hinherits' hmet (hlookup.trans hfound)]
      | some template =>
        -- both stand at this template now, with one name more that was met
        have hrest : u.ancestors b' (name :: visited) template =
            t.ancestors b (name :: visited) template :=
          ancestors_congr (h.up hinherits hmet hfound)
        rw [ancestors_of_found hinherits hmet hfound,
          ancestors_of_found hinherits' hmet (hlookup.trans hfound), hrest]
  · rw [ancestors, ancestors, hparent, htop.parentName]
  · rw [ancestors, ancestors, hparent, hunbound.parentName]
termination_by (t.unvisited visited).length
decreasing_by exact length_unvisited_lt (mem_keys_of_get? hfound) hmet

theorem chain_congr (h : t.AgreesAlong b [s.name] s u b') : u.chain b' s = t.chain b s := by
  unfold chain
  rw [ancestors_congr h]

/-! ## What a script does not depend on -/

/-- A template under a name that is not looked up changes none of the answers, unless it is the first implicit
one. -/
theorem agreesAlong_register (hname : ¬ t.LooksUp b visited s x.name)
    (himplicit : x.name = Script.implicitTemplate →
      OrderedMap.contains t Script.implicitTemplate = true) :
    t.AgreesAlong b visited s (t.register x) b where
  template name hlooks := by
    have hother : x.name ≠ name := by
      rintro rfl
      exact hname hlooks
    rw [get?_register, if_neg hother]
  implicit := by
    rw [contains_register]
    by_cases hx : x.name = Script.implicitTemplate
    · rw [himplicit hx, Bool.or_true]
    · rw [decide_eq_false hx, Bool.false_or]
  text _ _ := rfl

/-- Nor does a variable that no template field on the way refers to. -/
theorem agreesAlong_put (hname : ¬ t.RefersTo b visited s name) (value : Json) :
    t.AgreesAlong b visited s t (OrderedMap.put b name value) where
  template _ _ := rfl
  implicit := rfl
  text other hrefers := by
    have hother : name ≠ other := by
      rintro rfl
      exact hname hrefers
    unfold Bindings.text?
    rw [OrderedMap.get?_put, if_neg hother]

/-! ## Climbs that come to an end -/

/-- A climb that comes to its end is at a script without a parent, or it finds the parent and comes to its
end from there. -/
theorem ancestors_eq_ok_cases (h : t.ancestors b visited s = .ok above) :
    t.IsTop s ∧ above = []
      ∨ ∃ name template higher, t.Inherits b s name ∧ name ∉ visited
        ∧ OrderedMap.get? t name = some template
        ∧ t.ancestors b (name :: visited) template = .ok higher ∧ above = template :: higher := by
  rcases t.parent_cases b s with ⟨name, hinherits⟩ | htop | ⟨name, hunbound⟩
  · by_cases hmet : name ∈ visited
    · rw [ancestors_of_met hinherits hmet] at h
      cases h
    cases hfound : OrderedMap.get? t name with
    | none =>
      rw [ancestors_of_missing hinherits hmet hfound] at h
      cases h
    | some template =>
      rw [ancestors_of_found hinherits hmet hfound] at h
      cases hrest : t.ancestors b (name :: visited) template with
      | error e =>
        rw [hrest] at h
        cases h
      | ok higher =>
        rw [hrest] at h
        cases h
        exact .inr ⟨name, template, higher, hinherits, hmet, hfound, hrest, rfl⟩
  · rw [ancestors, htop.parentName] at h
    cases h
    exact .inl ⟨htop, rfl⟩
  · rw [ancestors, hunbound.parentName] at h
    cases h

/-- If it has found nothing, there is no parent. -/
theorem isTop_of_ancestors (h : t.ancestors b visited s = .ok []) : t.IsTop s := by
  rcases ancestors_eq_ok_cases h with ⟨htop, -⟩ | ⟨_, _, _, _, _, _, _, hnil⟩
  · exact htop
  · cases hnil

/-- What it has found first is the parent, under a new name. -/
theorem parent_of_ancestors (h : t.ancestors b visited s = .ok (template :: above)) :
    ∃ name, t.Inherits b s name ∧ name ∉ visited ∧ OrderedMap.get? t name = some template
      ∧ t.ancestors b (name :: visited) template = .ok above := by
  rcases ancestors_eq_ok_cases h with ⟨-, hnil⟩ | ⟨name, _, _, hinherits, hnew, hfound, hrest, hcons⟩
  · cases hnil
  · cases hcons
    exact ⟨name, hinherits, hnew, hfound, hrest⟩

/-- **It has come to just the scripts from the first one up.** Induction on what it has found. -/
theorem climbsTo_iff_mem (h : t.ancestors b visited s = .ok above) :
    (∃ met, t.ClimbsTo b visited s met x) ↔ x ∈ s :: above := by
  induction above generalizing visited s with
  | nil =>
    have htop := isTop_of_ancestors h
    rw [List.mem_singleton]
    constructor
    · rintro ⟨met, hclimb⟩
      cases hclimb with
      | here => rfl
      | up hinherits _ _ _ => exact absurd hinherits htop.not_inherits
    · rintro rfl
      exact ⟨visited, .here visited x⟩
  | cons template higher ih =>
    obtain ⟨name, hinherits, hnew, hfound, hrest⟩ := parent_of_ancestors h
    rw [List.mem_cons, ← ih hrest]
    constructor
    · rintro ⟨met, hclimb⟩
      cases hclimb with
      | here => exact .inl rfl
      | up hinherits' _ hfound' hrest' =>
        obtain rfl := hinherits'.unique hinherits
        cases hfound'.symm.trans hfound
        exact .inr ⟨met, hrest'⟩
    · rintro (rfl | ⟨met, hrest'⟩)
      · exact ⟨visited, .here visited x⟩
      · exact ⟨met, .up hinherits hnew hfound hrest'⟩

/-- **It has looked up just the names of the templates that it found.** Induction on these. -/
theorem looksUp_iff_mem (hkeyed : t.Keyed) (h : t.ancestors b visited s = .ok above) :
    t.LooksUp b visited s name ↔ name ∈ above.map Script.name := by
  induction above generalizing visited s with
  | nil => exact iff_of_false (isTop_of_ancestors h).not_looksUp List.not_mem_nil
  | cons template higher ih =>
    obtain ⟨next, hinherits, hnew, hfound, hrest⟩ := parent_of_ancestors h
    rw [looksUp_iff_of_found hinherits hnew hfound, ih hrest, List.map_cons, List.mem_cons,
      hkeyed next template hfound]

/-- What it has asked for, by the chain that comes of it. -/
theorem asked_of_chain (hkeyed : t.Keyed) {path : List Script} (h : t.chain b s = .ok path)
    (name : String) :
    (t.LooksUp b [s.name] s name ↔ name ∈ path.dropLast.map Script.name)
    ∧ (t.RefersTo b [s.name] s name ↔
      ∃ x ∈ path, ∃ raw, x.template = some raw ∧ name ∈ Placeholder.referenced raw) := by
  unfold chain at h
  obtain ⟨above, habove, hpath⟩ := bind_eq_ok_iff.1 h
  cases hpath
  constructor
  · rw [looksUp_iff_mem hkeyed habove, List.dropLast_concat, List.map_reverse, List.mem_reverse]
  · have hmem : ∀ x, x ∈ above.reverse ++ [s] ↔ ∃ met, t.ClimbsTo b [s.name] s met x := by
      intro x
      rw [climbsTo_iff_mem habove, List.mem_append, List.mem_reverse, List.mem_singleton,
        List.mem_cons, or_comm]
    constructor
    · rintro ⟨met, x, raw, hclimb, htemplate, hname⟩
      exact ⟨x, (hmem x).2 ⟨met, hclimb⟩, raw, htemplate, hname⟩
    · rintro ⟨x, hx, raw, htemplate, hname⟩
      obtain ⟨met, hclimb⟩ := (hmem x).1 hx
      exact ⟨met, x, raw, hclimb, htemplate, hname⟩

end Templates

namespace Script

/-! ## Resolving -/

theorem resolve_congr {s : Script} {t u : Templates} {b b' : Bindings}
    (h : t.AgreesAlong b [s.name] s u b') : s.resolve u b' = s.resolve t b := by
  unfold resolve
  rw [Templates.chain_congr h]

/-- **Resolving is local.** A registry and bindings that give the same answers to what the climb from a
script asks for make it resolve to the same, or fail with the same error. So it does not matter if a
template is defined or replaced whose name is not looked up, as long as it is not the first implicit one,
nor if a variable is bound that no template field on the way refers to. And if the script has a chain, the
names that are looked up are those of the templates in it, and the template fields on the way are those in
it. -/
theorem resolve_local (s : Script) (t : Templates) (b : Bindings) :
    (∀ u b', t.AgreesAlong b [s.name] s u b' → s.resolve u b' = s.resolve t b)
    ∧ (∀ x : Script, ¬ t.LooksUp b [s.name] s x.name →
        (x.name = implicitTemplate → OrderedMap.contains t implicitTemplate = true) →
        s.resolve (t.register x) b = s.resolve t b)
    ∧ (∀ name value, ¬ t.RefersTo b [s.name] s name →
        s.resolve t (OrderedMap.put b name value) = s.resolve t b)
    ∧ (t.Keyed → ∀ path, t.chain b s = .ok path → ∀ name,
        (t.LooksUp b [s.name] s name ↔ name ∈ path.dropLast.map Script.name)
        ∧ (t.RefersTo b [s.name] s name ↔
          ∃ x ∈ path, ∃ raw, x.template = some raw ∧ name ∈ Placeholder.referenced raw)) := by
  refine ⟨fun u b' h => resolve_congr h, ?_, ?_, ?_⟩
  · intro x hname himplicit
    exact resolve_congr (Templates.agreesAlong_register hname himplicit)
  · intro name value hname
    exact resolve_congr (Templates.agreesAlong_put hname value)
  · intro hkeyed path hchain name
    exact Templates.asked_of_chain hkeyed hchain name

/-- A template that is named by a number. -/
def versionTemplate : Script where
  name := "2.template"
  template := some "base"
  fields := [("env", .object [("version", .string "two")])]

/-- A script whose template depends on a variable. -/
def versionedScript : Script where
  name := "versioned"
  template := some "\x7b@version@\x7d"
  fields := [("headers", .object [("Accept", .string "\x7b@accept@\x7d")])]

/-- The registry of the two templates above it. -/
def versionTemplates : Templates :=
  .ofScripts [baseTemplate, versionTemplate]

/-- The variable is a number. -/
def versionNumber : Bindings :=
  [("version", .ofNat 2)]

theorem chain_versioned : versionTemplates.chain versionNumber versionedScript =
    .ok [baseTemplate, versionTemplate, versionedScript] := by
  have hkeyed : versionTemplates.Keyed := Templates.keyed_ofScripts _
  have hbase : versionNumber.substitute "base" = .ok "base" := by decide +kernel
  have hversion : versionNumber.substitute "\x7b@version@\x7d" = .ok "2" := by decide +kernel
  have hroot : versionTemplates.chain versionNumber baseTemplate = .ok [baseTemplate] :=
    Templates.chain_of_isTop hkeyed ⟨rfl, .inr (by decide +kernel)⟩ versionNumber
  have hmiddle : versionTemplates.IsParent versionNumber baseTemplate versionTemplate :=
    ⟨_, .named rfl hbase, rfl⟩
  have hleaf : versionTemplates.IsParent versionNumber versionTemplate versionedScript :=
    ⟨_, .named rfl hversion, rfl⟩
  have habove := (Templates.chain_child_iff hkeyed hmiddle hroot).2 ⟨by decide, rfl⟩
  exact (Templates.chain_child_iff hkeyed hleaf habove).2 ⟨by decide, rfl⟩

/-- On the way to its root, two templates are looked up and one variable is needed. -/
theorem asked_versioned (name : String) :
    (versionTemplates.LooksUp versionNumber [versionedScript.name] versionedScript name ↔
      name = "base.template" ∨ name = "2.template")
    ∧ (versionTemplates.RefersTo versionNumber [versionedScript.name] versionedScript name ↔
      name = "version") := by
  have hkeyed : versionTemplates.Keyed := Templates.keyed_ofScripts _
  obtain ⟨hlooks, hrefers⟩ := Templates.asked_of_chain hkeyed chain_versioned name
  have hplain : Placeholder.referenced "base" = [] := by decide +kernel
  have hversion : Placeholder.referenced "\x7b@version@\x7d" = ["version"] := by decide +kernel
  refine ⟨hlooks.trans List.mem_pair, hrefers.trans ⟨?_, ?_⟩⟩
  · rintro ⟨x, hx, raw, htemplate, hname⟩
    rcases List.mem_cons.1 hx with rfl | hx
    · cases htemplate
    rcases List.mem_pair.1 hx with rfl | rfl
    · cases htemplate
      rw [hplain] at hname
      cases hname
    · cases htemplate
      rw [hversion] at hname
      exact List.mem_singleton.1 hname
  · rintro rfl
    refine ⟨versionedScript, by simp, _, rfl, ?_⟩
    rw [hversion]
    exact List.mem_singleton_self _

/-- The script resolves to the same with a further template, with the others in another order, and with a
text in place of the number and a variable that only a header refers to. The first two alone suffice, and
so do the last two. -/
theorem resolve_local_versioned :
    versionTemplates.AgreesAlong versionNumber [versionedScript.name] versionedScript
      (.ofScripts [middleTemplate, versionTemplate, baseTemplate])
      [("accept", .null), ("version", .string "2")]
    ∧ versionedScript.resolve (.ofScripts [middleTemplate, versionTemplate, baseTemplate])
        [("accept", .null), ("version", .string "2")] =
      versionedScript.resolve versionTemplates versionNumber
    ∧ versionedScript.resolve (versionTemplates.register middleTemplate) versionNumber =
      versionedScript.resolve versionTemplates versionNumber
    ∧ versionedScript.resolve versionTemplates (OrderedMap.put versionNumber "accept" .null) =
      versionedScript.resolve versionTemplates versionNumber := by
  have hagrees : versionTemplates.AgreesAlong versionNumber [versionedScript.name] versionedScript
      (.ofScripts [middleTemplate, versionTemplate, baseTemplate])
      [("accept", .null), ("version", .string "2")] := by
    refine ⟨fun name hlooks => ?_, by decide +kernel, fun name hrefers => ?_⟩
    · rcases (asked_versioned name).1.1 hlooks with rfl | rfl <;> rfl
    · cases (asked_versioned name).2.1 hrefers
      decide +kernel
  have hmiddle : ¬ versionTemplates.LooksUp versionNumber [versionedScript.name] versionedScript
      middleTemplate.name := by
    rw [(asked_versioned middleTemplate.name).1]
    decide
  have haccept : ¬ versionTemplates.RefersTo versionNumber [versionedScript.name] versionedScript
      "accept" := by
    rw [(asked_versioned "accept").2]
    decide
  obtain ⟨hsame, hregister, hput, -⟩ := resolve_local versionedScript versionTemplates versionNumber
  exact ⟨hagrees, hsame _ _ hagrees, hregister middleTemplate hmiddle fun h => absurd h (by decide),
    hput "accept" .null haccept⟩

end Script

end RestSuite
