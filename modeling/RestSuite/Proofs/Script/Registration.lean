import RestSuite.Proofs.Script.Inheritance

/-!
# Registering a template

A template is registered in place of an earlier one of its name. That changes the chains of all
templates below it at once, and the first implicit template changes those of all templates without a
parent. This module says which parents stay and which change, and that templates keep a chain.

* **`Templates.IsParent.register`**, **`Templates.IsParent.replaced`**,
  **`Templates.IsTop.register_cases`** — parents before and after.
* **`Templates.chain_register`** — where a template with a chain is registered, the others keep theirs.
* **`Script.Plain`** — the template field is written out, and the implicit template has none.
* **`Templates.Settled`** — every template is plain and well formed, and has a chain.
* **`Templates.Settled.register`** — this is kept when a template is registered that resolves.
* **`Templates.Settled.resolve`**, **`Templates.Settled.resolve_script`** — then templates resolve, and
  scripts do or name a template that there is not.
-/

namespace RestSuite

namespace Templates

variable {t : Templates} {b : Bindings} {s x y parent : Script} {path : List Script} {name : String}

/-! ## Look-ups -/

theorem get?_register (t : Templates) (x : Script) (name : String) :
    OrderedMap.get? (t.register x) name =
      if x.name = name then some x else OrderedMap.get? t name :=
  OrderedMap.get?_put t x.name x name

theorem Registered.register (h : t.Registered y) (hother : x.name ≠ y.name) :
    (t.register x).Registered y := by
  unfold Registered
  rw [get?_register, if_neg hother]
  exact h

/-- What is registered afterwards is the new template or was registered under another name. -/
theorem Registered.of_register (h : (t.register x).Registered y) :
    y = x ∨ x.name ≠ y.name ∧ t.Registered y := by
  unfold Registered at h
  rw [get?_register] at h
  split at h
  · exact .inl (Option.some.inj h).symm
  · next hother => exact .inr ⟨hother, h⟩

theorem contains_register (t : Templates) (x : Script) (name : String) :
    OrderedMap.contains (t.register x) name = (decide (x.name = name) || OrderedMap.contains t name) := by
  unfold OrderedMap.contains
  rw [get?_register]
  by_cases hname : x.name = name <;> simp [hname]

/-! ## Parents -/

theorem Inherits.register (h : t.Inherits b s name) (x : Script) :
    (t.register x).Inherits b s name := by
  cases h with
  | named htemplate hfilled => exact .named htemplate hfilled
  | implicit htemplate hother hdefined =>
    refine .implicit htemplate hother ?_
    rw [contains_register, hdefined, Bool.or_true]

/-- A parent of another name stays the parent. -/
theorem IsParent.register (hkeyed : t.Keyed) (h : t.IsParent b parent s)
    (hother : x.name ≠ parent.name) : (t.register x).IsParent b parent s := by
  obtain ⟨name, hinherits, hget⟩ := h
  rw [hkeyed name parent hget] at hother
  refine ⟨name, hinherits.register x, ?_⟩
  rw [get?_register, if_neg hother]
  exact hget

/-- In place of a parent of the same name comes the new template. -/
theorem IsParent.replaced (hkeyed : t.Keyed) (h : t.IsParent b parent s)
    (hsame : x.name = parent.name) : (t.register x).IsParent b x s := by
  obtain ⟨name, hinherits, hget⟩ := h
  rw [hkeyed name parent hget] at hsame
  refine ⟨name, hinherits.register x, ?_⟩
  rw [get?_register, if_pos hsame]

/-- A script without a parent gets none, or the new template is the implicit one. -/
theorem IsTop.register_cases (h : t.IsTop s) (b : Bindings) (x : Script) :
    (t.register x).IsTop s
      ∨ x.name = Script.implicitTemplate ∧ (t.register x).IsParent b x s := by
  by_cases hself : s.name = Script.implicitTemplate
  · exact .inl ⟨h.template, .inl hself⟩
  by_cases hnew : x.name = Script.implicitTemplate
  · refine .inr ⟨hnew, _, .implicit h.template hself ?_, ?_⟩
    · rw [contains_register, decide_eq_true hnew, Bool.true_or]
    · rw [get?_register, if_pos hnew]
  · refine .inl ⟨h.template, .inr ?_⟩
    rw [contains_register, decide_eq_false hnew, h.implicit.resolve_left hself, Bool.or_false]

/-! ## Chains -/

/-- A template that has a chain and is registered still has one: no other template of its chain has its
name. -/
theorem chain_register_self (hkeyed : t.Keyed)
    (himplicit : x.name = Script.implicitTemplate → x.template = none)
    (hchain : t.chain b x = .ok path) : ∃ path, (t.register x).chain b x = .ok path := by
  have hkeyed' := hkeyed.register x
  by_cases hself : x.name = Script.implicitTemplate
  · exact ⟨_, chain_of_isTop hkeyed' ⟨himplicit hself, .inl hself⟩ b⟩
  obtain ⟨hlineage, top, hhead, htop⟩ := (chain_eq_ok_iff hkeyed).1 hchain
  have hlineage' : (t.register x).Lineage b x path := by
    refine hlineage.imp ?_
    intro parent hmem child _ hparent
    refine hparent.register hkeyed ?_
    obtain ⟨above, rfl⟩ := chain_concat hkeyed hchain
    rw [List.dropLast_concat] at hmem
    have hdistinct := hlineage.distinct
    rw [List.map_append] at hdistinct
    exact ((List.nodup_append.1 hdistinct).2.2 _ (List.mem_map_of_mem hmem) _
      (List.mem_singleton_self _)).symm
  rcases htop.register_cases b x with htop' | ⟨hnew, -⟩
  · exact ⟨path, (chain_eq_ok_iff hkeyed').2 ⟨hlineage', top, hhead, htop'⟩⟩
  · exact absurd hnew hself

/-- **The others keep a chain**, which goes through the new template from where it met the earlier
one. -/
theorem chain_register (hkeyed : t.Keyed)
    (himplicit : x.name = Script.implicitTemplate → x.template = none)
    (hself : t.chain b x = .ok path) {old : List Script} (hy : t.Registered y)
    (hother : x.name ≠ y.name) (hchain : t.chain b y = .ok old) :
    ∃ path, (t.register x).chain b y = .ok path := by
  have hkeyed' := hkeyed.register x
  obtain ⟨new, hnew⟩ := chain_register_self hkeyed himplicit hself
  refine chain_induction (P := fun y _ => t.Registered y → x.name ≠ y.name →
    ∃ path, (t.register x).chain b y = .ok path) hkeyed ?_ ?_ hchain hy hother
  · intro y htop hy hother
    rcases htop.register_cases b x with htop' | ⟨-, hparent'⟩
    · exact ⟨_, chain_of_isTop hkeyed' htop' b⟩
    · exact ⟨_, (hy.register hother).chain hkeyed' hparent' hnew⟩
  · intro y parent _ hparent _ ih hy hother
    by_cases hsame : x.name = parent.name
    · exact ⟨_, (hy.register hother).chain hkeyed' (hparent.replaced hkeyed hsame) hnew⟩
    · obtain ⟨path', hpath'⟩ := ih (hparent.registered hkeyed) hsame
      exact ⟨_, (hy.register hother).chain hkeyed' (hparent.register hkeyed hsame) hpath'⟩

end Templates

/-! ## Plain scripts -/

/-- The template field of the script is written out, without placeholders, and the implicit template
has none. -/
structure Script.Plain (s : Script) : Prop where
  literal : ∀ raw, s.template = some raw → Placeholder.referenced raw = []
  implicit : s.name = Script.implicitTemplate → s.template = none

namespace Templates

variable {t : Templates} {b : Bindings} {s x y parent : Script} {path : List Script} {name : String}

/-- What a plain script inherits from does not depend on what is bound. -/
theorem Inherits.of_plain (h : t.Inherits b s name) (hplain : s.Plain) (b' : Bindings) :
    t.Inherits b' s name := by
  cases h with
  | named htemplate hfilled =>
    have hliteral := hplain.literal _ htemplate
    cases (Bindings.substitute_of_literal b hliteral).symm.trans hfilled
    exact .named htemplate (Bindings.substitute_of_literal b' hliteral)
  | implicit htemplate hother hdefined => exact .implicit htemplate hother hdefined

/-- Nor does its chain. -/
theorem chain_of_plain (hkeyed : t.Keyed) (hall : ∀ y, t.Registered y → y.Plain) (hplain : s.Plain)
    (h : t.chain b s = .ok path) (b' : Bindings) : t.chain b' s = .ok path := by
  obtain ⟨hlineage, htop⟩ := (chain_eq_ok_iff hkeyed).1 h
  refine (chain_eq_ok_iff hkeyed).2 ⟨hlineage.imp ?_, htop⟩
  rintro parent - child hchild ⟨name, hinherits, hget⟩
  exact ⟨name, hinherits.of_plain
    (hlineage.forall_of_registered hkeyed hplain hall child hchild) b', hget⟩

/-! ## Settled registries -/

/-- Every template of the registry is plain and well formed, and has a chain, whatever is bound. -/
structure Settled (t : Templates) : Prop where
  keyed : t.Keyed
  template : ∀ x, t.Registered x → x.isTemplate = true
  plain : ∀ x, t.Registered x → x.Plain
  wellFormed : ∀ x, t.Registered x → x.WellFormed
  chain : ∀ x b, t.Registered x → ∃ path, t.chain b x = .ok path

theorem settled_empty : Settled [] where
  keyed := nofun
  template := nofun
  plain := nofun
  wellFormed := nofun
  chain := nofun

/-- **A registry stays settled** when a plain template is registered that resolves. -/
theorem Settled.register {r : ResolvedScript} (h : t.Settled) (htemplate : x.isTemplate = true)
    (hplain : x.Plain) (hresolve : x.resolve t b = .ok r) : (t.register x).Settled := by
  obtain ⟨path, hchain, -⟩ := Script.exists_resolve_iff.1 ⟨r, hresolve⟩
  have hself := fun b' => chain_of_plain h.keyed h.plain hplain hchain b'
  refine ⟨h.keyed.register x, ?_, ?_, ?_, ?_⟩
  · intro y hy
    rcases hy.of_register with rfl | ⟨-, hold⟩
    · exact htemplate
    · exact h.template y hold
  · intro y hy
    rcases hy.of_register with rfl | ⟨-, hold⟩
    · exact hplain
    · exact h.plain y hold
  · intro y hy
    rcases hy.of_register with rfl | ⟨-, hold⟩
    · exact Script.wellFormed_of_resolve h.keyed hresolve
    · exact h.wellFormed y hold
  · intro y b' hy
    rcases hy.of_register with rfl | ⟨hother, hold⟩
    · exact chain_register_self h.keyed hplain.implicit (hself b')
    · obtain ⟨old, hold'⟩ := h.chain y b' hold
      exact chain_register h.keyed hplain.implicit (hself b') hold hother hold'

/-- **Every template of a settled registry resolves.** -/
theorem Settled.resolve (h : t.Settled) (hx : t.Registered x) (b : Bindings) :
    ∃ r, x.resolve t b = .ok r := by
  obtain ⟨path, hchain⟩ := h.chain x b hx
  exact Script.resolve_of_chain hchain
    ((lineage_of_chain h.keyed hchain).forall_of_registered h.keyed (h.wellFormed x hx) h.wellFormed)

/-- The name that a template is looked up by ends as the name of a template. -/
theorem Inherits.isTemplate (h : t.Inherits b s name) :
    Script.endsIn name Script.templateSuffix = true := by
  cases h with
  | @named raw text _ _ =>
    unfold Script.templateName
    split
    · assumption
    · unfold Script.endsIn
      rw [List.isSuffixOf_iff_suffix, String.toList_append]
      exact List.suffix_append _ _
  | implicit _ _ _ => decide

/-- The script names a template, and there is none of this name. -/
def Dangles (t : Templates) (s : Script) (name : String) : Prop :=
  ∃ raw, s.template = some raw ∧ name = Script.templateName raw ∧ OrderedMap.get? t name = none

/-- A plain script has a chain, or names a template that there is not. Its name is none of a template,
so it is not met again. -/
theorem Settled.chain_script (h : t.Settled) (hplain : s.Plain) (hscript : s.isTemplate = false)
    (b : Bindings) :
    (∃ path, t.chain b s = .ok path)
      ∨ ∃ name, t.Dangles s name
        ∧ t.chain b s = .error (.configuration (.noSuchTemplate name)) := by
  rcases t.parent_cases b s with ⟨name, hinherits⟩ | htop | ⟨name, raw, htemplate, hunbound⟩
  · cases hget : OrderedMap.get? t name with
    | some parent =>
      have hparent : t.IsParent b parent s := ⟨name, hinherits, hget⟩
      obtain ⟨path, hpath⟩ := h.chain parent b (hparent.registered h.keyed)
      refine .inl ⟨_, (chain_child_iff h.keyed hparent hpath).2 ⟨?_, rfl⟩⟩
      intro hmem
      obtain ⟨x, hx, hname⟩ := List.mem_map.1 hmem
      have htemplate := (lineage_of_chain h.keyed hpath).forall_of_registered h.keyed
        (h.template parent (hparent.registered h.keyed)) h.template x hx
      unfold Script.isTemplate at hscript htemplate
      rw [hname] at htemplate
      exact Bool.false_ne_true (hscript.symm.trans htemplate)
    | none =>
      have hleads : t.LeadsTo b s (.error (.configuration (.noSuchTemplate name))) := by
        refine .dangling (.single t b s) hinherits ?_ hget
        intro hself
        obtain rfl := List.mem_singleton.1 hself
        exact Bool.false_ne_true (hscript.symm.trans hinherits.isTemplate)
      refine .inr ⟨name, ?_, (chain_eq_iff h.keyed).2 hleads⟩
      cases hinherits with
      | @named raw text htemplate hfilled =>
        have hliteral := hplain.literal _ htemplate
        cases (Bindings.substitute_of_literal b hliteral).symm.trans hfilled
        exact ⟨raw, htemplate, rfl, hget⟩
      | implicit _ _ hdefined =>
        unfold OrderedMap.contains at hdefined
        rw [hget] at hdefined
        cases hdefined
  · exact .inl ⟨_, chain_of_isTop h.keyed htop b⟩
  · unfold Bindings.firstUnbound? at hunbound
    rw [hplain.literal raw htemplate] at hunbound
    cases hunbound

/-- **A plain script below a settled registry** is never in a cycle. If its own sections are well
formed, it resolves or names a template that there is not. -/
theorem Settled.resolve_script (h : t.Settled) (hplain : s.Plain) (hscript : s.isTemplate = false)
    (b : Bindings) :
    (∀ names, s.resolve t b ≠ .error (.configuration (.cyclicTemplate names)))
    ∧ (s.WellFormed → (∃ r, s.resolve t b = .ok r)
      ∨ ∃ name, t.Dangles s name
        ∧ s.resolve t b = .error (.configuration (.noSuchTemplate name))) := by
  have hchain := h.chain_script hplain hscript b
  constructor
  · intro names hcyclic
    rcases Script.resolve_error_cases hcyclic with herror | ⟨fault, hfault, hmalformed⟩
    · rcases hchain with ⟨path, hpath⟩ | ⟨name, -, hmissing⟩
      · cases herror.symm.trans hpath
      · cases herror.symm.trans hmissing
    · cases hfault
      cases hmalformed
  · intro hwell
    rcases hchain with ⟨path, hpath⟩ | ⟨name, hdangles, hmissing⟩
    · exact .inl (Script.resolve_of_chain hpath
        ((lineage_of_chain h.keyed hpath).forall_of_registered h.keyed hwell h.wellFormed))
    · exact .inr ⟨name, hdangles, Script.resolve_of_chain_error hmissing⟩

end Templates

end RestSuite
