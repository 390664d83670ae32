import RestSuite.Proofs.Script.Lineage
import RestSuite.Proofs.Script.Sections

/-!
# A script on top of its parent

Resolving goes through a whole chain: from the script up for the method and the body, from the root
down for everything else. What comes out can be said step by step, from parent to child.

* **`ResolvedScript.extend`** — what a script declares, on top of what its parent resolves to.
* **`Script.resolve_child_iff`** — a script resolves to this, and does so exactly if its own sections
  are well formed and its name is new.
* **`Script.exists_resolve_iff`**, **`Script.resolve_of_chain`** — what has to be well formed in a
  chain for the script to resolve. It is enough that all of it is.
* **`Script.resolve_error_cases`** — a script that does not resolve has no chain, or a section of its
  chain is malformed.
-/

namespace RestSuite

variable {t : Templates} {b : Bindings} {s parent : Script} {path rest : List Script}
  {below layer own : Layer} {line? above? : Option (Method × String)} {r above : ResolvedScript}
  {e : ConfigurationError}

/-! ## Combining a chain -/

theorem combineLayers_cons_iff : combineLayers below (s :: rest) = .ok layer ↔
    ∃ own, s.layer = .ok own ∧ combineLayers (below.append own) rest = .ok layer := by
  rw [combineLayers]
  cases s.layer with
  | error e => exact ⟨nofun, fun ⟨_, h, _⟩ => nomatch h⟩
  | ok own =>
    constructor
    · exact fun h => ⟨own, rfl, h⟩
    · rintro ⟨_, h, hrest⟩
      cases h
      exact hrest

/-- The layer of the last script comes on top of the others. -/
theorem combineLayers_concat_iff : combineLayers below (path ++ [s]) = .ok layer ↔
    ∃ under own, combineLayers below path = .ok under ∧ s.layer = .ok own
      ∧ layer = under.append own := by
  induction path generalizing below with
  | nil =>
    rw [List.nil_append, combineLayers_cons_iff]
    constructor
    · rintro ⟨own, hown, h⟩
      cases h
      exact ⟨below, own, rfl, hown, rfl⟩
    · rintro ⟨under, own, h, hown, rfl⟩
      cases h
      exact ⟨own, hown, rfl⟩
  | cons first rest ih =>
    rw [List.cons_append, combineLayers_cons_iff]
    simp only [ih, combineLayers_cons_iff]
    constructor
    · rintro ⟨layer, hlayer, under, own, hunder, hown, rfl⟩
      exact ⟨under, own, ⟨layer, hlayer, hunder⟩, hown, rfl⟩
    · rintro ⟨under, own, ⟨layer, hlayer, hunder⟩, hown, rfl⟩
      exact ⟨layer, hlayer, under, own, hunder, hown, rfl⟩

/-- Layers that are combined lie on top of each other, one for each script. -/
theorem exists_layers_of_combineLayers (h : combineLayers below path = .ok layer) :
    ∃ layers, List.Forall₂ (fun x own => x.layer = .ok own) path layers
      ∧ layer = layers.foldl Layer.append below := by
  induction path generalizing below with
  | nil =>
    cases h
    exact ⟨[], .nil, rfl⟩
  | cons first rest ih =>
    obtain ⟨own, hown, hrest⟩ := combineLayers_cons_iff.1 h
    obtain ⟨layers, hlayers, rfl⟩ := ih hrest
    exact ⟨own :: layers, .cons hown hlayers, rfl⟩

/-- Sections that add up when one layer is put on another add up over many. -/
theorem Layer.section_foldl {α : Type} {f : Layer → List α}
    (happend : ∀ a b : Layer, f (a.append b) = f a ++ f b) (layers : List Layer) (below : Layer) :
    f (layers.foldl Layer.append below) = f below ++ (layers.map f).flatten := by
  induction layers generalizing below with
  | nil => exact (List.append_nil _).symm
  | cons own rest ih =>
    rw [List.foldl_cons, ih, happend, List.append_assoc, List.map_cons, List.flatten_cons]

/-- The own method of a script comes before those above it. -/
theorem nearestMethod_cons_iff (habove : nearestMethod rest = .ok above?) :
    nearestMethod (s :: rest) = .ok line? ↔
      ∃ own?, s.ownMethod = .ok own? ∧ line? = own?.or above? := by
  rw [nearestMethod]
  cases s.ownMethod with
  | error e => exact ⟨nofun, fun ⟨_, h, _⟩ => nomatch h⟩
  | ok own? =>
    cases own? with
    | none =>
      rw [habove]
      constructor
      · intro h
        cases h
        exact ⟨none, rfl, rfl⟩
      · rintro ⟨_, h, rfl⟩
        cases h
        rfl
    | some line =>
      constructor
      · intro h
        cases h
        exact ⟨some line, rfl, rfl⟩
      · rintro ⟨_, h, rfl⟩
        cases h
        rfl

/-- Layers can be combined if each script has one. -/
theorem exists_combineLayers_iff : (∃ layer, combineLayers below path = .ok layer) ↔
    ∀ x ∈ path, ∃ own, x.layer = .ok own := by
  induction path generalizing below with
  | nil => exact ⟨fun _ => List.forall_mem_nil _, fun _ => ⟨below, rfl⟩⟩
  | cons first rest ih =>
    rw [List.forall_mem_cons]
    simp only [combineLayers_cons_iff]
    constructor
    · rintro ⟨layer, own, hown, hrest⟩
      exact ⟨⟨own, hown⟩, ih.1 ⟨layer, hrest⟩⟩
    · rintro ⟨⟨own, hown⟩, hrest⟩
      obtain ⟨layer, hlayer⟩ := ih.2 hrest
      exact ⟨layer, own, hown, hlayer⟩

/-- The search for a method goes on in further scripts, if it has found none. -/
theorem nearestMethod_append (h : nearestMethod path = .ok line?)
    (hrest : nearestMethod rest = .ok above?) :
    nearestMethod (path ++ rest) = .ok (line?.or above?) := by
  induction path with
  | nil =>
    cases h
    exact hrest
  | cons first more ih =>
    rw [List.cons_append]
    rw [nearestMethod] at h ⊢
    split at h
    · cases h
    · cases h
      rfl
    · exact ih h

/-- There is a method or none, if each script can be asked for one. -/
theorem exists_nearestMethod (h : ∀ x ∈ path, ∃ own?, x.ownMethod = .ok own?) :
    ∃ line?, nearestMethod path = .ok line? := by
  induction path with
  | nil => exact ⟨none, rfl⟩
  | cons first rest ih =>
    obtain ⟨⟨own?, hown⟩, hrest⟩ := List.forall_mem_cons.1 h
    obtain ⟨above?, habove⟩ := ih hrest
    exact ⟨_, (nearestMethod_cons_iff habove).2 ⟨own?, hown, rfl⟩⟩

theorem isMalformed_of_nearestMethod (h : nearestMethod path = .error e) : e.IsMalformed := by
  induction path with
  | nil => cases h
  | cons first rest ih =>
    rw [nearestMethod] at h
    split at h
    · next hown =>
      cases h
      exact Script.isMalformed_of_ownMethod hown
    · cases h
    · exact ih h

theorem isMalformed_of_combineLayers (h : combineLayers below path = .error e) :
    e.IsMalformed := by
  induction path generalizing below with
  | nil => cases h
  | cons first rest ih =>
    rw [combineLayers] at h
    split at h
    · next hlayer =>
      cases h
      exact Script.isMalformed_of_layer hlayer
    · exact ih h

/-- **What a script resolves to**, by its chain. -/
theorem Script.resolve_eq_ok_iff : s.resolve t b = .ok r ↔
    ∃ path line? layer, t.chain b s = .ok path ∧ nearestMethod path.reverse = .ok line?
      ∧ combineLayers .empty path = .ok layer
      ∧ r = ⟨s.name, path.dropLast.map Script.name, line?,
          path.reverse.findSome? Script.ownBody?, layer⟩ := by
  unfold Script.resolve
  simp only [bind_eq_ok_iff, mapError_eq_ok_iff, Except.ok.injEq]
  constructor
  · rintro ⟨path, hchain, line?, hline, layer, hlayer, rfl⟩
    exact ⟨path, line?, layer, hchain, hline, hlayer, rfl⟩
  · rintro ⟨path, line?, layer, hchain, hline, hlayer, rfl⟩
    exact ⟨path, hchain, line?, hline, layer, hlayer, rfl⟩

/-- **A section of a resolved script** is made up of what the scripts of its chain declare there, from
the root down. -/
theorem Script.levels_of_resolve {α : Type} {f : Layer → List α} {Declared : Script → List α → Prop}
    (hempty : f .empty = []) (happend : ∀ a b : Layer, f (a.append b) = f a ++ f b)
    (hdeclared : ∀ x own, x.layer = .ok own → Declared x (f own)) (h : s.resolve t b = .ok r) :
    ∃ path levels, t.chain b s = .ok path ∧ List.Forall₂ Declared path levels
      ∧ f r.layer = levels.flatten := by
  obtain ⟨path, line?, layer, hchain, -, hlayer, rfl⟩ := resolve_eq_ok_iff.1 h
  obtain ⟨layers, hlayers, rfl⟩ := exists_layers_of_combineLayers hlayer
  refine ⟨path, layers.map f, hchain, ?_, ?_⟩
  · exact List.forall₂_map_right_iff.2 (hlayers.imp hdeclared)
  · show f (layers.foldl Layer.append .empty) = (layers.map f).flatten
    rw [Layer.section_foldl happend, hempty, List.nil_append]

/-- The variables that a resolved script binds. -/
theorem Script.env_of_resolve (h : s.resolve t b = .ok r) :
    ∃ path levels, t.chain b s = .ok path
      ∧ List.Forall₂ (fun x env => Script.DeclaresMembers x "env" env) path levels
      ∧ r.layer.env = levels.flatten :=
  levels_of_resolve rfl (fun _ _ => rfl) (fun _ _ hlayer => (layer_eq_ok_iff.1 hlayer).2.1) h

/-- The headers that a script itself declares: the members of its section, each with its text. -/
def Script.DeclaresHeaders (s : Script) (headers : List Header) : Prop :=
  ∃ members, s.DeclaresMembers "headers" members
    ∧ headers = members.map fun member => (member.1, member.2.display)

/-- The headers of a resolved script. -/
theorem Script.headers_of_resolve (h : s.resolve t b = .ok r) :
    ∃ path levels, t.chain b s = .ok path ∧ List.Forall₂ Script.DeclaresHeaders path levels
      ∧ r.layer.headers = levels.flatten :=
  levels_of_resolve rfl (fun _ _ => rfl) (fun _ _ hlayer => (layer_eq_ok_iff.1 hlayer).1) h

/-- **When a script resolves.** -/
theorem Script.exists_resolve_iff : (∃ r, s.resolve t b = .ok r) ↔
    ∃ path, t.chain b s = .ok path ∧ (∃ line?, nearestMethod path.reverse = .ok line?)
      ∧ ∀ x ∈ path, ∃ own, x.layer = .ok own := by
  have hlayers : ∀ path, (∃ layer, combineLayers .empty path = .ok layer) ↔
      ∀ x ∈ path, ∃ own, x.layer = .ok own := fun _ => exists_combineLayers_iff
  simp only [resolve_eq_ok_iff, ← hlayers]
  constructor
  · rintro ⟨r, path, line?, layer, hchain, hline, hlayer, -⟩
    exact ⟨path, hchain, ⟨line?, hline⟩, layer, hlayer⟩
  · rintro ⟨path, hchain, ⟨line?, hline⟩, layer, hlayer⟩
    exact ⟨_, path, line?, layer, hchain, hline, hlayer, rfl⟩

/-- **A script resolves if all scripts of its chain are well formed.** -/
theorem Script.resolve_of_chain (hchain : t.chain b s = .ok path)
    (hall : ∀ x ∈ path, x.WellFormed) : ∃ r, s.resolve t b = .ok r := by
  refine exists_resolve_iff.2 ⟨path, hchain, exists_nearestMethod ?_, ?_⟩
  · intro x hx
    obtain ⟨line?, own, hdeclares⟩ := hall x (List.mem_reverse.1 hx)
    exact ⟨line?, (declares_iff.1 hdeclares).1⟩
  · intro x hx
    obtain ⟨line?, own, hdeclares⟩ := hall x hx
    exact ⟨own, (declares_iff.1 hdeclares).2⟩

/-- A script that resolves is well formed itself. -/
theorem Script.wellFormed_of_resolve (hkeyed : t.Keyed) (h : s.resolve t b = .ok r) :
    s.WellFormed := by
  obtain ⟨path, line?, layer, hchain, hline, hlayer, -⟩ := resolve_eq_ok_iff.1 h
  obtain ⟨above, rfl⟩ := Templates.chain_concat hkeyed hchain
  obtain ⟨-, own, -, hown, -⟩ := combineLayers_concat_iff.1 hlayer
  rw [List.reverse_concat, nearestMethod] at hline
  cases hown? : s.ownMethod with
  | error e =>
    rw [hown?] at hline
    cases hline
  | ok own? => exact ⟨own?, own, declares_iff.2 ⟨hown?, hown⟩⟩

/-- A script without a chain does not resolve. -/
theorem Script.resolve_of_chain_error {e : ResolveError} (h : t.chain b s = .error e) :
    s.resolve t b = .error e := by
  unfold Script.resolve
  exact bind_eq_error_iff.2 (.inl h)

/-- **Why a script does not resolve.** -/
theorem Script.resolve_error_cases {e : ResolveError} (h : s.resolve t b = .error e) :
    t.chain b s = .error e ∨ ∃ fault, e = .configuration fault ∧ fault.IsMalformed := by
  unfold Script.resolve at h
  rcases bind_eq_error_iff.1 h with h | ⟨path, -, h⟩
  · exact .inl h
  rcases bind_eq_error_iff.1 h with h | ⟨line?, -, h⟩
  · obtain ⟨fault, hfault, rfl⟩ := mapError_eq_error_iff.1 h
    exact .inr ⟨fault, rfl, isMalformed_of_nearestMethod hfault⟩
  rcases bind_eq_error_iff.1 h with h | ⟨layer, -, h⟩
  · obtain ⟨fault, hfault, rfl⟩ := mapError_eq_error_iff.1 h
    exact .inr ⟨fault, rfl, isMalformed_of_combineLayers hfault⟩
  · cases h

/-! ## From parent to child -/

/-- What a script declares, on top of what its parent resolves to. -/
def ResolvedScript.extend (above : ResolvedScript) (s : Script) (line? : Option (Method × String))
    (own : Layer) : ResolvedScript where
  name := s.name
  chain := above.chain ++ [above.name]
  line? := line?.or above.line?
  body := s.ownBody?.or above.body
  layer := above.layer.append own

/-- The names of a chain are those above its last script, and that of this script. -/
theorem Script.map_name_concat (path : List Script) (s : Script) :
    (path ++ [s]).dropLast.map Script.name ++ [s.name] = (path ++ [s]).map Script.name := by
  rw [List.dropLast_concat, List.map_append]
  rfl

/-- A script resolves to its own sections on top of its parent, if its name is new. -/
theorem Script.resolve_eq_extend_iff (hkeyed : t.Keyed) (hparent : t.IsParent b parent s)
    (hresolve : parent.resolve t b = .ok above) :
    s.resolve t b = .ok r ↔ s.name ∉ above.chain ++ [parent.name]
      ∧ ∃ line? own, s.Declares line? own ∧ r = above.extend s line? own := by
  obtain ⟨path, above?, under, hchain, habove, hunder, rfl⟩ := resolve_eq_ok_iff.1 hresolve
  obtain ⟨up, rfl⟩ := Templates.chain_concat hkeyed hchain
  have hchild : ∀ path', t.chain b s = .ok path' ↔
      s.name ∉ (up ++ [parent]).map Script.name ∧ path' = up ++ [parent] ++ [s] :=
    fun _ => Templates.chain_child_iff hkeyed hparent hchain
  -- the record of the longer chain is that of the shorter one, extended
  have hextend : ∀ own? own, (⟨s.name, (up ++ [parent] ++ [s]).dropLast.map Script.name,
      own?.or above?, (up ++ [parent] ++ [s]).reverse.findSome? ownBody?,
      under.append own⟩ : ResolvedScript) =
      ResolvedScript.extend ⟨parent.name, (up ++ [parent]).dropLast.map Script.name, above?,
        (up ++ [parent]).reverse.findSome? ownBody?, under⟩ s own? own := by
    intro own? own
    rw [ResolvedScript.extend, map_name_concat, List.dropLast_concat, List.reverse_concat,
      List.findSome?_cons]
    cases s.ownBody? <;> rfl
  dsimp only
  rw [resolve_eq_ok_iff, map_name_concat]
  constructor
  · rintro ⟨path', line?, layer, hchain', hline, hlayer, rfl⟩
    obtain ⟨hnew, rfl⟩ := (hchild path').1 hchain'
    rw [List.reverse_concat, nearestMethod_cons_iff habove] at hline
    obtain ⟨own?, hown?, rfl⟩ := hline
    obtain ⟨under', own, hunder', hown, rfl⟩ := combineLayers_concat_iff.1 hlayer
    cases hunder.symm.trans hunder'
    exact ⟨hnew, own?, own, declares_iff.2 ⟨hown?, hown⟩, hextend own? own⟩
  · rintro ⟨hnew, own?, own, hdeclares, rfl⟩
    obtain ⟨hown?, hown⟩ := declares_iff.1 hdeclares
    have hline : nearestMethod (up ++ [parent] ++ [s]).reverse = .ok (own?.or above?) := by
      rw [List.reverse_concat, nearestMethod_cons_iff habove]
      exact ⟨own?, hown?, rfl⟩
    have hlayer : combineLayers .empty (up ++ [parent] ++ [s]) = .ok (under.append own) :=
      combineLayers_concat_iff.2 ⟨under, own, hunder, hown, rfl⟩
    exact ⟨_, _, _, (hchild _).2 ⟨hnew, rfl⟩, hline, hlayer, (hextend own? own).symm⟩

/-- The rules of a stage are those of the parent, and those that the script declares. -/
theorem ResolvedScript.rules_extend (hdeclares : s.Declares line? own) (above : ResolvedScript)
    (stage : Stage) : ∃ rules, (above.extend s line? own).rules stage = above.rules stage ++ rules
      ∧ s.DeclaresRules stage rules := by
  cases stage with
  | precondition => exact ⟨_, rfl, hdeclares.preconditions⟩
  | extraction => exact ⟨_, rfl, hdeclares.extractors⟩
  | assertion => exact ⟨_, rfl, hdeclares.assertions⟩

/-- **A script extends its parent.** Let the parent of a script resolve. Then the script resolves
exactly if all that it declares is well formed and its name is neither that of the parent nor in the
chain of the parent. It resolves to what the parent resolves to and its own headers, variables and
rules behind it, with the name of the parent at the end of the chain, and with its own method and body
in place of those of the parent, if it has any. Every rule that comes with it is tagged with its
name. -/
theorem Script.resolve_child_iff (hkeyed : t.Keyed) (hparent : t.IsParent b parent s)
    (hresolve : parent.resolve t b = .ok above) :
    (∀ r, s.resolve t b = .ok r ↔
      s.name ∉ above.chain ++ [parent.name]
      ∧ ∃ line? own, s.Declares line? own ∧ r = above.extend s line? own)
    ∧ ∀ r, s.resolve t b = .ok r → ∀ stage, ∃ rules, r.rules stage = above.rules stage ++ rules
      ∧ s.DeclaresRules stage rules ∧ ∀ rule ∈ rules, rule.source = s.name := by
  refine ⟨fun r => resolve_eq_extend_iff hkeyed hparent hresolve, ?_⟩
  intro r hr stage
  obtain ⟨-, line?, own, hdeclares, rfl⟩ := (resolve_eq_extend_iff hkeyed hparent hresolve).1 hr
  obtain ⟨rules, hrules, hown⟩ := ResolvedScript.rules_extend hdeclares above stage
  exact ⟨rules, hrules, hown, hown.source_eq⟩

/-- A template with a method and a header. -/
def baseTemplate : Script where
  name := "base.template"
  template := none
  fields := [("GET", .string "/base"), ("headers", .object [("Accept", .string "text/plain")])]

/-- A template below it, with a check. -/
def middleTemplate : Script where
  name := "middle.template"
  template := some "base"
  fields := [("assert", .object [("status", .string "2..")])]

/-- A script below both. It gives the header once more, has a body that is null, and checks an
expression. -/
def leafScript : Script where
  name := "leaf"
  template := some "middle"
  fields := [("headers", .object [("Accept", .null)]), ("body", .null),
    ("assert", .array [.string "ok"])]

/-- The registry of the two templates. -/
def layeredTemplates : Templates :=
  .ofScripts [baseTemplate, middleTemplate]

/-- The script resolves, to what its parent resolves to with its own sections on top. -/
theorem Script.resolve_leaf :
    layeredTemplates.Keyed ∧ layeredTemplates.IsParent [] middleTemplate leafScript
    ∧ ∃ above r, middleTemplate.resolve layeredTemplates [] = .ok above
      ∧ leafScript.resolve layeredTemplates [] = .ok r
      ∧ leafScript.name ∉ above.chain ++ [middleTemplate.name]
      ∧ (∃ line? own, leafScript.Declares line? own ∧ r = above.extend leafScript line? own)
      ∧ ∀ stage, ∃ rules, r.rules stage = above.rules stage ++ rules
        ∧ leafScript.DeclaresRules stage rules ∧ ∀ rule ∈ rules, rule.source = leafScript.name := by
  have hkeyed : layeredTemplates.Keyed := Templates.keyed_ofScripts _
  have hfilled : Bindings.substitute [] "middle" = .ok "middle" := by decide +kernel
  have hparent : layeredTemplates.IsParent [] middleTemplate leafScript :=
    ⟨_, .named rfl hfilled, rfl⟩
  have hmiddle : (middleTemplate.resolve layeredTemplates []).isOk = true := by decide +kernel
  have hleaf : (leafScript.resolve layeredTemplates []).isOk = true := by decide +kernel
  obtain ⟨above, habove⟩ := exists_of_isOk hmiddle
  obtain ⟨r, hr⟩ := exists_of_isOk hleaf
  obtain ⟨hiff, hrules⟩ := resolve_child_iff hkeyed hparent habove
  obtain ⟨hnew, hextend⟩ := (hiff r).1 hr
  exact ⟨hkeyed, hparent, above, r, habove, hr, hnew, hextend, hrules r hr⟩

end RestSuite
