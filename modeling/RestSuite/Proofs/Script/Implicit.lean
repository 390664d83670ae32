import RestSuite.Proofs.Script.Registration

/-!
# The first implicit template

A registry without an implicit template has chains that end at scripts without a parent. Once an
implicit template is registered, all of these have one. This module follows what becomes of the chains.

* **`Templates.chain_register_implicit`** — an implicit template without a template field comes on top
  of every chain.
* **`Templates.chain_register_cyclic`** — one with a template field has a root above it that now inherits
  from it, so every chain has become a cycle.
* **`Templates.keepsResolving_iff`** — although both resolve before they are registered, only the first
  kind keeps scripts resolving.
-/

namespace RestSuite

namespace Templates

variable {t : Templates} {b : Bindings} {s x parent : Script} {path : List Script}
  {r rx : ResolvedScript}

section FirstImplicit

-- there is no implicit template, and one is registered
variable (hkeyed : t.Keyed) (hundefined : OrderedMap.get? t Script.implicitTemplate = none)
  (himplicit : x.name = Script.implicitTemplate)

/-! ## Parents -/

include hkeyed hundefined in
/-- No parent has the name of the implicit template. -/
theorem IsParent.name_ne_implicit (h : t.IsParent b parent s) :
    parent.name ≠ Script.implicitTemplate := by
  intro hname
  have hregistered : OrderedMap.get? t parent.name = some parent := h.registered hkeyed
  rw [hname] at hregistered
  cases hundefined.symm.trans hregistered

include hkeyed hundefined himplicit in
/-- So every parent stays one. -/
theorem IsParent.register_implicit (h : t.IsParent b parent s) :
    (t.register x).IsParent b parent s := by
  refine h.register hkeyed ?_
  rw [himplicit]
  exact (h.name_ne_implicit hkeyed hundefined).symm

include himplicit in
/-- A script without a parent gets the new template, unless it is the implicit one itself. -/
theorem IsTop.parent_implicit (h : t.IsTop s) (hother : s.name ≠ Script.implicitTemplate)
    (b : Bindings) : (t.register x).IsParent b x s := by
  rcases h.register_cases b x with ⟨-, hname | hnone⟩ | ⟨-, hparent⟩
  · exact absurd hname hother
  · -- the new template is there to be inherited from
    rw [contains_register, decide_eq_true himplicit, Bool.true_or] at hnone
    cases hnone
  · exact hparent

/-! ## An implicit template without a template field -/

include hkeyed hundefined himplicit in
/-- **An implicit template without a template field comes on top of every chain.** -/
theorem chain_register_implicit (hnone : x.template = none)
    (hother : s.name ≠ Script.implicitTemplate) (hchain : t.chain b s = .ok path) :
    (t.register x).chain b s = .ok (x :: path) := by
  have hkeyed' := hkeyed.register x
  have htop : (t.register x).chain b x = .ok [x] :=
    chain_of_isTop hkeyed' ⟨hnone, .inl himplicit⟩ b
  refine chain_induction (P := fun s path => s.name ≠ Script.implicitTemplate →
    (t.register x).chain b s = .ok (x :: path)) hkeyed ?_ ?_ hchain hother
  · intro s hroot hother
    have hparent := hroot.parent_implicit himplicit hother b
    refine (chain_child_iff hkeyed' hparent htop).2 ⟨?_, rfl⟩
    rw [List.map_singleton, List.mem_singleton, himplicit]
    exact hother
  · intro s parent path hparent hnew ih hother
    have hparent' := hparent.register_implicit hkeyed hundefined himplicit
    have hchain' := ih (hparent.name_ne_implicit hkeyed hundefined)
    refine (chain_child_iff hkeyed' hparent' hchain').2 ⟨?_, rfl⟩
    rw [List.map_cons, List.mem_cons, himplicit]
    exact not_or.2 ⟨hother, hnew⟩

include hkeyed hundefined himplicit in
/-- So every script that resolves still does, with the implicit template first in its chain. -/
theorem resolve_register_implicit (hnone : x.template = none)
    (haccepted : x.resolve t b = .ok rx) (hother : s.name ≠ Script.implicitTemplate)
    (hresolve : s.resolve t b = .ok r) :
    ∃ r', s.resolve (t.register x) b = .ok r' ∧ r'.chain = Script.implicitTemplate :: r.chain := by
  obtain ⟨path, line?, layer, hchain, hline, hlayer, rfl⟩ := Script.resolve_eq_ok_iff.1 hresolve
  obtain ⟨root, above?, own, hroot, habove, hown, -⟩ := Script.resolve_eq_ok_iff.1 haccepted
  cases (chain_of_isTop hkeyed ⟨hnone, .inl himplicit⟩ b).symm.trans hroot
  have hchain' := chain_register_implicit hkeyed hundefined himplicit hnone hother hchain
  -- what was well formed in the chains of both is well formed in the chain of both together
  have hline' : nearestMethod (x :: path).reverse = .ok (line?.or above?) := by
    rw [List.reverse_cons]
    exact nearestMethod_append hline habove
  have hlayers : ∀ y ∈ x :: path, ∃ own, y.layer = .ok own :=
    List.forall_mem_cons.2
      ⟨exists_combineLayers_iff.1 ⟨own, hown⟩ x (List.mem_singleton_self x),
        exists_combineLayers_iff.1 ⟨layer, hlayer⟩⟩
  obtain ⟨layer', hlayer'⟩ := exists_combineLayers_iff.2 hlayers
  refine ⟨_, Script.resolve_eq_ok_iff.2 ⟨_, _, _, hchain', hline', hlayer', rfl⟩, ?_⟩
  obtain ⟨above, rfl⟩ := chain_concat hkeyed hchain
  dsimp only
  rw [List.dropLast_cons_of_ne_nil (List.concat_ne_nil s above), List.map_cons, himplicit]

/-! ## An implicit template with a template field -/

include hkeyed hundefined himplicit in
/-- **An implicit template with a template field closes every chain to a cycle.** It has a chain
itself, whose root gets it as a parent. So no script that is met has none. -/
theorem chain_register_cyclic (hnamed : x.template ≠ none) {root : List Script}
    (haccepted : t.chain b x = .ok root) (hother : s.name ≠ Script.implicitTemplate)
    (hchain : t.chain b s = .ok path) :
    ∃ names, (t.register x).chain b s = .error (.configuration (.cyclicTemplate names)) := by
  -- what is met had a chain before, and is the new template if it has its name
  refine chain_cyclic (P := fun y => (∃ path, t.chain b y = .ok path)
    ∧ (y.name = Script.implicitTemplate → y = x)) (hkeyed.register x)
    ⟨⟨path, hchain⟩, fun hname => absurd hname hother⟩ ?_
  rintro y ⟨⟨above, hy⟩, hsame⟩
  obtain ⟨above, rfl⟩ := chain_concat hkeyed hy
  rcases chain_concat_cases hkeyed hy with ⟨-, htop⟩ | ⟨parent, hparent, habove, -⟩
  · have hname : y.name ≠ Script.implicitTemplate :=
      fun hname => hnamed (hsame hname ▸ htop.template)
    exact ⟨x, htop.parent_implicit himplicit hname b, ⟨root, haccepted⟩, fun _ => rfl⟩
  · have hname := hparent.name_ne_implicit hkeyed hundefined
    exact ⟨parent, hparent.register_implicit hkeyed hundefined himplicit, ⟨above, habove⟩,
      fun himplicit => absurd himplicit hname⟩

end FirstImplicit

/-! ## Which implicit templates keep scripts resolving -/

/-- Scripts that resolve still do with the template registered, and inherit from the implicit
template. -/
def KeepsResolving (t : Templates) (b : Bindings) (x : Script) : Prop :=
  ∀ s : Script, s.name ≠ Script.implicitTemplate → ∀ r, s.resolve t b = .ok r →
    ∃ r', s.resolve (t.register x) b = .ok r' ∧ Script.implicitTemplate ∈ r'.chain

/-- A script that declares nothing. -/
def bareScript : Script where
  name := "bare"
  template := none
  fields := []

/-- Where there is no implicit template, it resolves. -/
theorem exists_resolve_bareScript (hkeyed : t.Keyed)
    (hundefined : OrderedMap.get? t Script.implicitTemplate = none) (b : Bindings) :
    ∃ r, bareScript.resolve t b = .ok r := by
  have hnone : OrderedMap.contains t Script.implicitTemplate = false := by
    unfold OrderedMap.contains
    rw [hundefined]
    rfl
  refine Script.exists_resolve_iff.2 ⟨_, chain_of_isTop hkeyed ⟨rfl, .inr hnone⟩ b, ⟨none, rfl⟩, ?_⟩
  exact List.forall_mem_singleton.2 ⟨.empty, rfl⟩

/-- **Only an implicit template without a template field keeps scripts resolving.** Let there be no
implicit template yet, and let one resolve. If it has no template field, every other script that
resolves still does when it is registered, and inherits from it. If it has one, none of them does:
each is in a cycle. -/
theorem keepsResolving_iff (hkeyed : t.Keyed)
    (hundefined : OrderedMap.get? t Script.implicitTemplate = none)
    (himplicit : x.name = Script.implicitTemplate) (haccepted : x.resolve t b = .ok rx) :
    (t.KeepsResolving b x ↔ x.template = none)
    ∧ (x.template ≠ none → ∀ s : Script, s.name ≠ Script.implicitTemplate →
      ∀ r, s.resolve t b = .ok r →
        ∃ names, s.resolve (t.register x) b = .error (.configuration (.cyclicTemplate names))) := by
  have hcyclic : x.template ≠ none → ∀ s : Script, s.name ≠ Script.implicitTemplate →
      ∀ r, s.resolve t b = .ok r →
        ∃ names, s.resolve (t.register x) b = .error (.configuration (.cyclicTemplate names)) := by
    intro hnamed s hother r hresolve
    obtain ⟨root, hroot, -⟩ := Script.exists_resolve_iff.1 ⟨rx, haccepted⟩
    obtain ⟨path, hpath, -⟩ := Script.exists_resolve_iff.1 ⟨r, hresolve⟩
    obtain ⟨names, herror⟩ :=
      chain_register_cyclic hkeyed hundefined himplicit hnamed hroot hother hpath
    exact ⟨names, Script.resolve_of_chain_error herror⟩
  refine ⟨⟨?_, ?_⟩, hcyclic⟩
  · intro hkeeps
    by_contra hnamed
    obtain ⟨r, hr⟩ := exists_resolve_bareScript hkeyed hundefined b
    have hother : bareScript.name ≠ Script.implicitTemplate := by decide
    obtain ⟨r', hr', -⟩ := hkeeps bareScript hother r hr
    obtain ⟨names, herror⟩ := hcyclic hnamed bareScript hother r hr
    cases hr'.symm.trans herror
  · intro hnone s hother r hresolve
    obtain ⟨r', hr', hchain⟩ :=
      resolve_register_implicit hkeyed hundefined himplicit hnone haccepted hother hresolve
    refine ⟨r', hr', ?_⟩
    rw [hchain]
    exact List.mem_cons_self

/-- An implicit template that gives every request a header. -/
def headerTemplate : Script where
  name := Script.implicitTemplate
  template := none
  fields := [("headers", .object [("Accept", .string "text/plain")])]

/-- One that has its parts from another template. -/
def loopingTemplate : Script where
  name := Script.implicitTemplate
  template := some "base"
  fields := []

/-- With the first, scripts keep resolving. -/
theorem keepsResolving_header :
    OrderedMap.get? (ofScripts [baseTemplate]) Script.implicitTemplate = none
    ∧ (∃ r, headerTemplate.resolve (ofScripts [baseTemplate]) [] = .ok r)
    ∧ (ofScripts [baseTemplate]).KeepsResolving [] headerTemplate := by
  have hundefined : OrderedMap.get? (ofScripts [baseTemplate]) Script.implicitTemplate = none := by
    decide +kernel
  have haccepted : (headerTemplate.resolve (ofScripts [baseTemplate]) []).isOk = true := by
    decide +kernel
  obtain ⟨rx, hrx⟩ := exists_of_isOk haccepted
  exact ⟨hundefined, ⟨rx, hrx⟩,
    (keepsResolving_iff (keyed_ofScripts _) hundefined rfl hrx).1.2 rfl⟩

/-- **With the second, they do not**, although it resolves. -/
theorem not_keepsResolving_looping :
    OrderedMap.get? (ofScripts [baseTemplate]) Script.implicitTemplate = none
    ∧ (∃ r, loopingTemplate.resolve (ofScripts [baseTemplate]) [] = .ok r)
    ∧ ¬ (ofScripts [baseTemplate]).KeepsResolving [] loopingTemplate := by
  have hundefined : OrderedMap.get? (ofScripts [baseTemplate]) Script.implicitTemplate = none := by
    decide +kernel
  have haccepted : (loopingTemplate.resolve (ofScripts [baseTemplate]) []).isOk = true := by
    decide +kernel
  have hbefore : (bareScript.resolve (ofScripts [baseTemplate]) []).isOk = true := by
    decide +kernel
  have hafter : (bareScript.resolve ((ofScripts [baseTemplate]).register loopingTemplate) []).isOk
      = false := by
    decide +kernel
  refine ⟨hundefined, exists_of_isOk haccepted, ?_⟩
  intro hkeeps
  obtain ⟨r, hr⟩ := exists_of_isOk hbefore
  obtain ⟨r', hr', -⟩ := hkeeps bareScript (by decide) r hr
  rw [hr'] at hafter
  cases hafter

end Templates

end RestSuite
