import RestSuite.Proofs.Behavior.Redirects
import RestSuite.Proofs.Json.Alike
import RestSuite.Proofs.Json.Leaves

/-!
# Variables that are compared

A comparison that names a variable compares its value, although the value goes through a text: a
placeholder stands for the compact text of the value, which is not looked at for further placeholders or
redirects, and the text spells the value. So trees are compared, and never their texts.

* **`Placeholder.ofName`** — the placeholder of a variable.
* **`Json.IsTree`** — a value that its text spells.
* **`Assertion.operand_ofName`** — a placeholder stands for the value of its variable.
* **`Assertion.JudgesBound`** — a variable is compared by its value, on either side.
* **`Assertion.judgesBound_of_name`** — which variables are.
-/

namespace RestSuite

/-! ## The placeholder of a variable -/

/-- A name between markers. -/
def Placeholder.ofName (x : String) : String :=
  Placeholder.opening ++ x ++ Placeholder.closing

/-- A name without a sign of a marker and without outer blanks. -/
structure IsPlainName (x : String) : Prop where
  unmarked : ∀ c ∈ x.toList, c ≠ '@' ∧ c ≠ '{' ∧ c ≠ '}'
  trimmed : Text.trimmed x = x

variable {x : String} {v w : Json} {scene : Scene} {rule : Rule}

theorem isPlainName_iff : IsPlainName x ↔
    x.toList.all Placeholder.isNameChar = true ∧ Text.trimmed x = x := by
  rw [List.all_eq_true]
  simp only [Placeholder.isNameChar_iff]
  exact ⟨fun h => ⟨h.unmarked, h.trimmed⟩, fun h => ⟨h.1, h.2⟩⟩

instance (x : String) : Decidable (IsPlainName x) :=
  decidable_of_iff _ isPlainName_iff.symm

theorem IsPlainName.isName (h : IsPlainName x) (hne : x ≠ "") : Placeholder.IsName x.toList :=
  ⟨by simpa using hne, h.unmarked⟩

theorem Placeholder.toList_ofName (x : String) : (ofName x).toList = marked x.toList := by
  have htoList := Bindings.toList_placeholder "" x ""
  simpa [ofName] using htoList

/-- Filled in, a placeholder is the text of its variable. -/
theorem Bindings.substitute_ofName {b : Bindings} (hx : IsPlainName x) (hne : x ≠ "")
    (hget : OrderedMap.get? b x = some v) : b.substitute (Placeholder.ofName x) = .ok v.display := by
  have hpieces := pieces_marked (hx.isName hne) []
  have hname : String.ofList (Text.trim x.toList) = x := hx.trimmed
  have hvalue : b.valueText x = .ok v.display := by
    unfold valueText
    rw [hget]
  rw [List.append_nil, hname] at hpieces
  unfold substitute
  rw [Placeholder.toList_ofName, hpieces, fillAll, fill_reference, hvalue]
  -- nothing follows the placeholder, and its text is not filled in again
  simp [Placeholder.pieces, fillAll, Except.map, ok_bind]

/-- A placeholder is no redirect, and neither is what it stands for. -/
theorem Scene.expand_ofName (hx : IsPlainName x) (hne : x ≠ "")
    (hget : OrderedMap.get? scene.scope.bindings x = some v) :
    scene.expand (Placeholder.ofName x) = .ok v.display := by
  have hinline : IsInline (Placeholder.ofName x) := by
    unfold IsInline
    rw [Placeholder.toList_ofName]
    nofun
  unfold Scene.expand
  rw [Scope.expand_of_isInline _ hinline, Bindings.substitute_ofName hx hne hget]
  rfl

/-! ## Values that are compared -/

/-- A value that its text spells: it is no text itself, holds no float and no object with a name twice,
and nests no deeper than the reader allows. -/
structure Json.IsTree (v : Json) : Prop where
  notText : ∀ s, v ≠ .string s
  integral : v.Integral
  distinct : v.Distinct
  shallow : v.depth ≤ 127

theorem Json.IsTree.display_eq (h : v.IsTree) : v.display = v.text := by
  cases v with
  | string s => exact absurd rfl (h.notText s)
  | _ => rfl

theorem Json.IsTree.parse_text (h : v.IsTree) : Json.parse v.text = .ok v :=
  Json.parse_text h.integral h.distinct h.shallow

namespace Assertion

theorem operand_ofName (hx : IsPlainName x) (hne : x ≠ "")
    (hget : OrderedMap.get? scene.scope.bindings x = some v) (hv : v.IsTree) :
    operand scene (.string (Placeholder.ofName x)) = .ok v := by
  unfold operand
  dsimp only
  rw [Scene.expand_ofName hx hne hget, ok_bind, hv.display_eq, hv.parse_text]

theorem operand_of_isTree (scene : Scene) (hw : w.IsTree) : operand scene w = .ok w := by
  cases w with
  | string s => exact absurd rfl (hw.notText s)
  | _ => rfl

/-- The rule passes exactly if the values are equal, and fails exactly if they are not. -/
structure Judges (rule : Rule) (scene : Scene) (v w : Json) : Prop where
  passes : equal rule scene = .ok .pass ↔ v.Alike w
  fails : (∃ message, equal rule scene = .ok (.fail message)) ↔ ¬ v.Alike w

/-- Two operands that stand for trees are compared as trees. -/
theorem judges_of_operands {left right : Json} (hconfig : rule.config = .array [left, right])
    (hleft : operand scene left = .ok v) (hright : operand scene right = .ok w)
    (hv : v.IsTree) (hw : w.IsTree) : Judges rule scene v w := by
  have hequal : equal rule scene = .ok (verdict (v.same w) s!"{v.text} != {w.text}") := by
    unfold equal
    simp only [hconfig, ok_bind, hleft, hright]
  have hsame := Json.same_iff_alike v w hv.integral hv.distinct hw.distinct
  cases hholds : v.same w with
  | true =>
    have halike := hsame.1 hholds
    rw [hholds] at hequal
    refine ⟨iff_of_true hequal halike, iff_of_false ?_ (not_not.2 halike)⟩
    rintro ⟨message, hfail⟩
    cases hequal.symm.trans hfail
  | false =>
    have hunlike : ¬ v.Alike w := fun h => by cases hholds.symm.trans (hsame.2 h)
    rw [hholds] at hequal
    refine ⟨iff_of_false (fun hpass => ?_) hunlike, iff_of_true ⟨_, hequal⟩ hunlike⟩
    cases hequal.symm.trans hpass

theorem Judges.symm (h : Judges rule scene v w) : Judges rule scene w v :=
  ⟨h.passes.trans Json.alike_comm, h.fails.trans (not_congr Json.alike_comm)⟩

/-- Wherever the variable is bound to a tree, a rule that holds its placeholder against a tree compares
the two, and so does the rule with its operands swapped. -/
def JudgesBound (x : String) : Prop :=
  ∀ (scene : Scene) (v w : Json), OrderedMap.get? scene.scope.bindings x = some v → v.IsTree →
    w.IsTree → ∀ rule swapped : Rule,
      rule.config = .array [.string (Placeholder.ofName x), w] →
      swapped.config = .array [w, .string (Placeholder.ofName x)] →
      Judges rule scene v w ∧ Judges swapped scene v w

/-- **Every variable with a plain name is compared by its value**, whatever texts stand in it. -/
theorem judgesBound_of_name (x : String) (hx : IsPlainName x) (hne : x ≠ "") : JudgesBound x := by
  intro scene v w hget hv hw rule swapped hconfig hswapped
  have hleft := operand_ofName hx hne hget hv
  have hright := operand_of_isTree scene hw
  exact ⟨judges_of_operands hconfig hleft hright hv hw,
    (judges_of_operands hswapped hright hleft hw hv).symm⟩

/-- Texts that look like a placeholder, a redirect and a value. -/
def lookalikes : List Json :=
  [.string "\x7b@tree@\x7d", .string "@tree.json", .string "[1, \"\\u00e9\"]"]

/-- A tree with such texts, and the same one with its members in another order. -/
def tree : Json :=
  .object [("a", .array lookalikes), ("b", .object [("@", .ofNat 1), ("", .null)])]

def reordered : Json :=
  .object [("b", .object [("", .null), ("@", .ofNat 1)]), ("a", .array lookalikes)]

/-- A call with a value bound to a variable. -/
def binding (x : String) (v : Json) : Scene :=
  ⟨⟨"compare", [], none, none, .empty⟩, none, none, ⟨[(x, v)], .empty, none⟩⟩

/-- A rule that compares two operands. -/
def comparing (left right : Json) : Rule :=
  ⟨.assertion, "equal", .array [left, right], false, "compare"⟩

/-- The texts are not looked into, and the order of members does not matter. -/
theorem judgesBound_of_name_lookalikes :
    IsPlainName "tree" ∧ tree.IsTree ∧ reordered.IsTree
    ∧ equal (comparing (.string (Placeholder.ofName "tree")) reordered) (binding "tree" tree) =
        .ok .pass
    ∧ equal (comparing reordered (.string (Placeholder.ofName "tree"))) (binding "tree" tree) =
        .ok .pass := by
  have hname : IsPlainName "tree" := by decide +kernel
  have htree : tree.IsTree := {
    notText := nofun
    integral := ⟨⟨trivial, trivial, trivial, trivial⟩, ⟨trivial, trivial, trivial⟩, trivial⟩
    distinct := ⟨by decide, ⟨trivial, trivial, trivial, trivial⟩,
      ⟨by decide, trivial, trivial, trivial⟩, trivial⟩
    shallow := by decide }
  have hreordered : reordered.IsTree := {
    notText := nofun
    integral := ⟨⟨trivial, trivial, trivial⟩, ⟨trivial, trivial, trivial, trivial⟩, trivial⟩
    distinct := ⟨by decide, ⟨by decide, trivial, trivial, trivial⟩,
      ⟨trivial, trivial, trivial, trivial⟩, trivial⟩
    shallow := by decide }
  have halike : tree.Alike reordered :=
    (Json.same_iff_alike _ _ htree.integral htree.distinct hreordered.distinct).1 (by decide)
  obtain ⟨hjudges, hswapped⟩ := judgesBound_of_name "tree" hname (by decide) (binding "tree" tree) tree
    reordered rfl htree hreordered (comparing (.string (Placeholder.ofName "tree")) reordered)
    (comparing reordered (.string (Placeholder.ofName "tree"))) rfl rfl
  exact ⟨hname, htree, hreordered, hjudges.passes.2 halike, hswapped.passes.2 halike⟩

/-- Between the markers stands something: a variable without a name is bound, but cannot be compared. -/
theorem not_judgesBound_empty : IsPlainName "" ∧ ¬ JudgesBound "" := by
  have hname : IsPlainName "" := by decide +kernel
  have hseven : (Json.ofNat 7).IsTree := ⟨nofun, trivial, trivial, by decide⟩
  refine ⟨hname, fun hjudges => ?_⟩
  obtain ⟨hpass, -⟩ := hjudges (binding "" (.ofNat 7)) _ _ rfl hseven hseven
    (comparing (.string (Placeholder.ofName "")) (.ofNat 7))
    (comparing (.ofNat 7) (.string (Placeholder.ofName ""))) rfl rfl
  have hequal := hpass.passes.2 (.number _)
  have hfail : equal (comparing (.string (Placeholder.ofName "")) (.ofNat 7))
      (binding "" (.ofNat 7)) = .ok (.fail "\"\x7b@@\x7d\" != 7") := by
    decide +kernel
  cases hfail.symm.trans hequal

end Assertion

end RestSuite
