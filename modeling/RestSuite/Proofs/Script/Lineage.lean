import Mathlib.Data.List.Chain
import RestSuite.Proofs.Script.Climb

/-!
# Chains of a script and of its parent

A script has one parent or none, so its chain is that of its parent with the script behind it. This
module follows chains from parent to child.

* **`Templates.chain_eq_ok_iff`** — a chain is a lineage with a script on top that has no parent.
* **`Templates.chain_induction`** — induction on a chain, from its root down.
* **`Templates.chain_child_iff`** — where the parent has a chain, the script has this chain and itself
  behind it, unless its name is in it.
* **`Templates.Registered.chain`** — a template that is registered is never in the chain of its parent.
* **`Templates.chain_cyclic`** — where every script that is met has a parent, the climb is a cycle.
-/

namespace RestSuite.Templates

variable {t u : Templates} {b b' : Bindings} {s top x parent parent' : Script}
  {path path' below before after : List Script} {name name' : String}

/-! ## Parents -/

theorem Inherits.unique (h : t.Inherits b s name) (h' : t.Inherits b s name') : name = name' := by
  cases h.parentName.symm.trans h'.parentName
  rfl

theorem IsParent.unique (h : t.IsParent b parent s) (h' : t.IsParent b parent' s) :
    parent = parent' := by
  obtain ⟨name, hinherits, hget⟩ := h
  obtain ⟨name', hinherits', hget'⟩ := h'
  obtain rfl := hinherits.unique hinherits'
  exact Option.some.inj (hget.symm.trans hget')

theorem IsParent.not_isTop (h : t.IsParent b parent s) : ¬ t.IsTop s := by
  obtain ⟨name, hinherits, -⟩ := h
  intro htop
  cases hinherits.parentName.symm.trans (htop.parentName b)

/-- The script stands in the registry, under its own name. -/
def Registered (t : Templates) (s : Script) : Prop :=
  OrderedMap.get? t s.name = some s

theorem Registered.unique (h : t.Registered s) (h' : t.Registered x) (hname : s.name = x.name) :
    s = x := by
  unfold Registered at h h'
  rw [hname] at h
  exact Option.some.inj (h.symm.trans h')

/-- A parent is a registered template. -/
theorem IsParent.registered (hkeyed : t.Keyed) (h : t.IsParent b parent s) :
    t.Registered parent := by
  obtain ⟨name, -, hget⟩ := h
  unfold Registered
  rw [hkeyed name parent hget]
  exact hget

/-! ## Lineages -/

/-- What goes from child to parent holds of a whole lineage. Induction on the scripts below the
ancestor. -/
theorem Lineage.forall_mem {P : Script → Prop} (h : t.Lineage b s path) (hself : P s)
    (hup : ∀ parent child, t.IsParent b parent child → P child → P parent) : ∀ x ∈ path, P x := by
  induction path with
  | nil => exact List.forall_mem_nil P
  | cons top below ih =>
    cases below with
    | nil =>
      cases h.ends
      exact List.forall_mem_singleton.2 hself
    | cons next rest =>
      have hbelow := ih h.tail
      have hparent := (List.isChain_cons_cons.1 h.linked).1
      exact List.forall_mem_cons.2 ⟨hup top next hparent (hbelow next List.mem_cons_self), hbelow⟩

/-- All scripts of a lineage but for its own are registered templates. -/
theorem Lineage.registered (hkeyed : t.Keyed) (h : t.Lineage b s path) :
    ∀ x ∈ path, x = s ∨ t.Registered x :=
  h.forall_mem (.inl rfl) fun _ _ hparent _ => .inr (hparent.registered hkeyed)

/-- What holds of registered templates and of the script holds of its lineage. -/
theorem Lineage.forall_of_registered {P : Script → Prop} (hkeyed : t.Keyed)
    (h : t.Lineage b s path) (hself : P s) (hall : ∀ x, t.Registered x → P x) :
    ∀ x ∈ path, P x := by
  intro x hx
  rcases h.registered hkeyed x hx with rfl | hregistered
  · exact hself
  · exact hall x hregistered

/-- The lineage of a script goes through the lineages of its ancestors. -/
theorem Lineage.upTo (h : t.Lineage b s (before ++ x :: after)) :
    t.Lineage b x (before ++ [x]) := by
  rw [List.append_cons] at h
  have hdistinct := h.distinct
  rw [List.map_append] at hdistinct
  exact ⟨List.getLast?_concat, h.linked.left_of_append, hdistinct.of_append_left⟩

/-- The script behind the lineage of its parent. -/
theorem Lineage.concat (h : t.Lineage b parent path) (hparent : t.IsParent b parent s)
    (hnew : s.name ∉ path.map Script.name) : t.Lineage b s (path ++ [s]) where
  ends := List.getLast?_concat
  linked := by
    refine List.isChain_append.2 ⟨h.linked, .singleton s, ?_⟩
    intro x hx y hy
    cases h.ends.symm.trans hx
    cases hy
    exact hparent
  distinct := by
    rw [List.map_append]
    refine List.nodup_append.2 ⟨h.distinct, List.nodup_singleton _, ?_⟩
    intro x hx y hy
    cases List.mem_singleton.1 hy
    exact fun heq => hnew (heq ▸ hx)

/-- Links of a chain carry over, where they do between items of which the first is not the last of
all. -/
theorem isChain_imp_dropLast {α : Type} {R S : α → α → Prop} {l : List α} (h : l.IsChain R)
    (hlink : ∀ x ∈ l.dropLast, ∀ y ∈ l, R x y → S x y) : l.IsChain S := by
  induction h with
  | nil => exact .nil
  | singleton x => exact .singleton x
  | @cons_cons x y rest hxy _ ih =>
    rw [List.dropLast_cons_cons] at hlink
    refine .cons_cons (hlink x List.mem_cons_self y (List.mem_cons_of_mem _ List.mem_cons_self) hxy)
      (ih ?_)
    intro x' hx' y' hy'
    exact hlink x' (List.mem_cons_of_mem _ hx') y' (List.mem_cons_of_mem _ hy')

/-- A lineage carries over to another registry and other bindings, if its scripts have the same
parents there. -/
theorem Lineage.imp (h : t.Lineage b s path)
    (hlink : ∀ parent ∈ path.dropLast, ∀ child ∈ path, t.IsParent b parent child →
      u.IsParent b' parent child) : u.Lineage b' s path :=
  ⟨h.ends, isChain_imp_dropLast h.linked hlink, h.distinct⟩

/-! ## Chains -/

/-- **A chain is a lineage with a script on top that has no parent.** -/
theorem chain_eq_ok_iff (hkeyed : t.Keyed) : t.chain b s = .ok path ↔
    t.Lineage b s path ∧ ∃ top, path.head? = some top ∧ t.IsTop top := by
  rw [chain_eq_iff hkeyed]
  constructor
  · intro h
    cases h with
    | complete hlineage htop => exact ⟨hlineage, _, rfl, htop⟩
  · rintro ⟨hlineage, top, hhead, htop⟩
    obtain ⟨below, rfl⟩ := List.head?_eq_some_iff.1 hhead
    exact .complete hlineage htop

theorem lineage_of_chain (hkeyed : t.Keyed) (h : t.chain b s = .ok path) : t.Lineage b s path :=
  ((chain_eq_ok_iff hkeyed).1 h).1

/-- A chain ends with its script. -/
theorem chain_concat (hkeyed : t.Keyed) (h : t.chain b s = .ok path) :
    ∃ above, path = above ++ [s] :=
  List.getLast?_eq_some_iff.1 (lineage_of_chain hkeyed h).ends

theorem chain_of_isTop (hkeyed : t.Keyed) (h : t.IsTop s) (b : Bindings) :
    t.chain b s = .ok [s] :=
  (chain_eq_ok_iff hkeyed).2 ⟨.single t b s, s, rfl, h⟩

/-- What stands above a script in its chain: nothing, or the chain of its parent. -/
theorem chain_concat_cases (hkeyed : t.Keyed) (h : t.chain b s = .ok (path ++ [s])) :
    path = [] ∧ t.IsTop s
      ∨ ∃ parent, t.IsParent b parent s ∧ t.chain b parent = .ok path
        ∧ s.name ∉ path.map Script.name := by
  obtain ⟨hlineage, top, hhead, htop⟩ := (chain_eq_ok_iff hkeyed).1 h
  rcases List.eq_nil_or_concat' path with rfl | ⟨before, parent, rfl⟩
  · cases hhead
    exact .inl ⟨rfl, htop⟩
  · obtain ⟨hlinked, -, hlast⟩ := List.isChain_append.1 hlineage.linked
    have hdistinct := hlineage.distinct
    rw [List.map_append] at hdistinct
    obtain ⟨hnodup, -, hdisjoint⟩ := List.nodup_append.1 hdistinct
    have hend : (before ++ [parent]).getLast? = some parent := List.getLast?_concat
    rw [List.head?_append_of_ne_nil _ (List.append_ne_nil_of_right_ne_nil before (List.cons_ne_nil parent []))] at hhead
    refine .inr ⟨parent, hlast parent hend s rfl, ?_, ?_⟩
    · exact (chain_eq_ok_iff hkeyed).2 ⟨⟨hend, hlinked, hnodup⟩, top, hhead, htop⟩
    · intro hmem
      exact hdisjoint _ hmem _ (List.mem_singleton_self _) rfl

/-- **Induction on a chain**, from its root down. -/
theorem chain_induction {P : Script → List Script → Prop} (hkeyed : t.Keyed)
    (hroot : ∀ s, t.IsTop s → P s [s])
    (hchild : ∀ s parent path, t.IsParent b parent s → s.name ∉ path.map Script.name →
      P parent path → P s (path ++ [s]))
    (h : t.chain b s = .ok path) : P s path := by
  induction path using List.reverseRecOn generalizing s with
  | nil =>
    obtain ⟨above, hempty⟩ := chain_concat hkeyed h
    exact absurd hempty.symm (List.concat_ne_nil s above)
  | append_singleton above last ih =>
    obtain ⟨above', hends⟩ := chain_concat hkeyed h
    obtain ⟨rfl, hlast⟩ := List.append_inj' hends rfl
    obtain rfl := List.singleton_inj.1 hlast
    rcases chain_concat_cases hkeyed h with ⟨rfl, htop⟩ | ⟨parent, hparent, habove, hnew⟩
    · exact hroot last htop
    · exact hchild last parent above hparent hnew (ih habove)

/-- **The chain of a script is that of its parent with the script behind it**, unless the name of the
script is in it. -/
theorem chain_child_iff (hkeyed : t.Keyed) (hparent : t.IsParent b parent s)
    (hchain : t.chain b parent = .ok path) :
    t.chain b s = .ok path' ↔ s.name ∉ path.map Script.name ∧ path' = path ++ [s] := by
  constructor
  · intro h
    obtain ⟨above, rfl⟩ := chain_concat hkeyed h
    rcases chain_concat_cases hkeyed h with ⟨-, htop⟩ | ⟨parent', hparent', hchain', hnew⟩
    · exact absurd htop hparent.not_isTop
    · obtain rfl := hparent.unique hparent'
      cases hchain.symm.trans hchain'
      exact ⟨hnew, rfl⟩
  · rintro ⟨hnew, rfl⟩
    obtain ⟨hlineage, top, hhead, htop⟩ := (chain_eq_ok_iff hkeyed).1 hchain
    refine (chain_eq_ok_iff hkeyed).2 ⟨hlineage.concat hparent hnew, top, ?_, htop⟩
    rw [List.head?_append, hhead]
    rfl

/-- **A registered template is not in the chain of its parent.** Its own chain would go up to it and
end there, although it is longer than that of its parent. -/
theorem Registered.not_mem (hkeyed : t.Keyed) (h : t.Registered s)
    (hparent : t.IsParent b parent s) (hchain : t.chain b parent = .ok path) :
    s.name ∉ path.map Script.name := by
  intro hmem
  obtain ⟨hlineage, top, hhead, htop⟩ := (chain_eq_ok_iff hkeyed).1 hchain
  obtain ⟨x, hx, hname⟩ := List.mem_map.1 hmem
  have hregistered : t.Registered x :=
    hlineage.forall_of_registered hkeyed (hparent.registered hkeyed) (fun _ h => h) x hx
  obtain rfl := hregistered.unique h hname
  obtain ⟨before, after, rfl⟩ := List.append_of_mem hx
  have hself : t.chain b x = .ok (before ++ [x]) := by
    refine (chain_eq_ok_iff hkeyed).2 ⟨hlineage.upTo, top, ?_, htop⟩
    rw [← hhead]
    cases before <;> rfl
  obtain ⟨-, hlonger⟩ := (chain_child_iff hkeyed hparent hchain).1 hself
  have hlength := congrArg List.length hlonger
  simp only [List.length_append, List.length_cons, List.length_nil] at hlength
  omega

/-- So it has a chain if its parent has one. -/
theorem Registered.chain (hkeyed : t.Keyed) (h : t.Registered s)
    (hparent : t.IsParent b parent s) (hchain : t.chain b parent = .ok path) :
    t.chain b s = .ok (path ++ [s]) :=
  (chain_child_iff hkeyed hparent hchain).2 ⟨h.not_mem hkeyed hparent hchain, rfl⟩

/-! ## Cycles -/

/-- **Where every script that is met has a parent, the climb is a cycle.** -/
theorem chain_cyclic {P : Script → Prop} (hkeyed : t.Keyed) (hself : P s)
    (hup : ∀ x, P x → ∃ parent, t.IsParent b parent x ∧ P parent) :
    ∃ names, t.chain b s = .error (.configuration (.cyclicTemplate names)) := by
  have htop : ∀ {top below}, t.Lineage b s (top :: below) → P top := by
    intro top below hlineage
    refine hlineage.forall_mem hself ?_ top List.mem_cons_self
    intro parent child hparent hchild
    obtain ⟨parent', hparent', hmet⟩ := hup child hchild
    exact hparent.unique hparent' ▸ hmet
  have hleads := (chain_eq_iff hkeyed).1 (rfl : t.chain b s = t.chain b s)
  generalize t.chain b s = result at hleads ⊢
  cases hleads with
  | cyclic _ _ _ => exact ⟨_, rfl⟩
  | complete hlineage hend =>
    obtain ⟨parent, hparent, -⟩ := hup _ (htop hlineage)
    exact absurd hend hparent.not_isTop
  | dangling hlineage hinherits _ hmissing =>
    obtain ⟨parent, ⟨name, hinherits', hget⟩, -⟩ := hup _ (htop hlineage)
    obtain rfl := hinherits.unique hinherits'
    cases hmissing.symm.trans hget
  | unbound hlineage hunbound =>
    obtain ⟨parent, ⟨name, hinherits, -⟩, -⟩ := hup _ (htop hlineage)
    cases (hunbound.parentName t).symm.trans hinherits.parentName

end RestSuite.Templates
