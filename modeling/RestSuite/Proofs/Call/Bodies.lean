import RestSuite.Proofs.Call.Headers
import RestSuite.Proofs.Json.Leaves

/-!
# The bodies that a call sends

A body that is an object or an array is written as JSON and filled in then. Where its strings and what
they refer to need no escapes, that is the text of the value in which every string has been filled in.

* **`Caller.build_structuredBody`** — what the text of such a body is.
-/

namespace RestSuite

/-- The value is an object or an array. -/
inductive Json.IsStructured : Json → Prop where
  | array (items : List Json) : IsStructured (.array items)
  | object (members : List (String × Json)) : IsStructured (.object members)

namespace Caller

variable {σ : Type} {c : Caller σ} {s : ResolvedScript} {w : World σ} {body : Json}
  {request : Request}

theorem body_of_prepare (h : c.prepare s w = .ok request) (hbody : s.body = some body) :
    ∃ text, c.expandBody w body = .ok text ∧ request.body = some text := by
  obtain ⟨_, -, h⟩ := bind_eq_ok_iff.1 h
  obtain ⟨_, -, h⟩ := bind_eq_ok_iff.1 h
  obtain ⟨_, -, h⟩ := bind_eq_ok_iff.1 h
  obtain ⟨_, -, h⟩ := bind_eq_ok_iff.1 h
  obtain ⟨text?, htext, h⟩ := bind_eq_ok_iff.1 h
  cases h
  rw [hbody] at htext
  obtain ⟨text, hexpand, hsome⟩ := bind_eq_ok_iff.1 htext
  cases hsome
  exact ⟨text, hexpand, rfl⟩

/-- A request is prepared in the world that the build leaves behind. -/
theorem prepare_of_build (h : (c.build s w).1 = .ok request) :
    c.prepare s (c.build s w).2 = .ok request := by
  unfold build at h ⊢
  split at h
  · cases h
  · exact h

theorem expandBody_of_isStructured (h : body.IsStructured) :
    c.expandBody w body = (w.environment.bindings.substitute body.text).mapError .binding := by
  cases h <;> rfl

/-- **A body of objects and arrays is filled in leaf by leaf.** Let no name in it hold a marker, let
every marker in its strings begin a placeholder, and let neither the names between the markers nor the
texts of their variables have a character that JSON escapes. Then the strings can be filled in each by
itself, and the text of the body is the text of the value that has the results in their places. -/
theorem build_structuredBody (c : Caller σ) (s : ResolvedScript) (w : World σ) {body : Json}
    (hbody : s.body = some body) (hstructured : body.IsStructured)
    (hfits : (c.build s w).2.environment.bindings.Fits body) :
    ∃ filled, (c.build s w).2.environment.bindings.fillLeaves body = .ok filled
      ∧ c.expandBody (c.build s w).2 body = .ok filled.text
      ∧ ∀ request, (c.build s w).1 = .ok request → request.body = some filled.text := by
  obtain ⟨filled, hfilled, htext⟩ := Bindings.substitute_text hfits
  have hexpand : c.expandBody (c.build s w).2 body = .ok filled.text := by
    rw [expandBody_of_isStructured hstructured, htext]
    rfl
  refine ⟨filled, hfilled, hexpand, fun request hbuilt => ?_⟩
  obtain ⟨text, htext, hsent⟩ := body_of_prepare (prepare_of_build hbuilt) hbody
  cases hexpand.symm.trans htext
  exact hsent

/-- A body with placeholders beside the signs of the format, braces and an escape. -/
def greetingBody : Json :=
  .object [("text", .string "say \x7b@ greeting @\x7d!"),
    ("\x7b\"", .array [.string "\x7b\"@", .null, .ofNat 3]), ("to", .string "\x7b@user@\x7d")]

/-- A script that sends it. -/
def greetingScript : ResolvedScript :=
  ⟨"greet", [], some (.post, "/"), some greetingBody, .empty⟩

/-- A world with the variables that it refers to. The text of one looks like a placeholder. -/
def greeted : World Replay :=
  ((World.start .empty ⟨[], []⟩).bind "user" (.string "Ada")).bind "greeting"
    (.string "hi \x7b@user@\x7d")

theorem fits_greetingBody : greeted.environment.bindings.Fits greetingBody := by
  have hgreeting : greeted.environment.bindings.FitsLeaf
      ("say ".toList ++ (Placeholder.marked " greeting ".toList ++ ("!".toList ++ []))) := by
    have hname : Placeholder.IsName " greeting ".toList := ⟨by decide, by simp⟩
    have hend : greeted.environment.bindings.FitsLeaf ("!".toList ++ []) :=
      Bindings.fitsLeaf_of_no_marker _ (by decide)
    have hvalue : greeted.environment.bindings.text? (String.ofList (Text.trim " greeting ".toList)) =
        some "hi \x7b@user@\x7d" := by
      decide +kernel
    have hmarked := hend.marked hname (by simp [Json.IsBare]) hvalue (by simp [Json.IsBare])
    exact hmarked.append (by decide)
  have huser : greeted.environment.bindings.FitsLeaf (Placeholder.marked "user".toList ++ []) := by
    have hname : Placeholder.IsName "user".toList := ⟨by decide, by simp⟩
    have hend : greeted.environment.bindings.FitsLeaf [] :=
      Bindings.fitsLeaf_of_no_marker _ (by decide)
    have hvalue : greeted.environment.bindings.text? (String.ofList (Text.trim "user".toList)) =
        some "Ada" := by
      decide +kernel
    exact hend.marked hname (by simp [Json.IsBare]) hvalue (by simp [Json.IsBare])
  have hbrace := greeted.environment.bindings.fitsLeaf_of_no_marker
    (by decide : ¬ ['{', '@'] <:+: ['{', '"', '@'])
  exact ⟨by decide, hgreeting, by decide, ⟨hbrace, trivial, trivial, trivial⟩, by decide, huser,
    trivial⟩

/-- A value that looks like a placeholder is put into its string, and nothing is looked for across the
signs of the format. -/
theorem build_structuredBody_greeting :
    greetingScript.body = some greetingBody ∧ greetingBody.IsStructured
    ∧ (Replay.caller.build greetingScript greeted).2.environment.bindings.Fits greetingBody
    ∧ ∃ request filled, (Replay.caller.build greetingScript greeted).1 = .ok request
      ∧ greeted.environment.bindings.fillLeaves greetingBody = .ok filled
      ∧ request.body = some filled.text
      ∧ filled.text = "\x7b\"text\":\"say hi \x7b@user@\x7d!\"," ++
          "\"\x7b\\\"\":[\"\x7b\\\"@\",null,3],\"to\":\"Ada\"\x7d" := by
  have hfits : (Replay.caller.build greetingScript greeted).2.environment.bindings.Fits
      greetingBody := fits_greetingBody
  have hok : (Replay.caller.build greetingScript greeted).1.isOk = true := by decide +kernel
  obtain ⟨request, hrequest⟩ := exists_of_isOk hok
  obtain ⟨filled, hfilled, -, hbody⟩ :=
    build_structuredBody Replay.caller greetingScript greeted rfl (.object _) hfits
  have htext : ((greeted.environment.bindings.fillLeaves greetingBody).toOption.map Json.text) =
      some ("\x7b\"text\":\"say hi \x7b@user@\x7d!\"," ++
        "\"\x7b\\\"\":[\"\x7b\\\"@\",null,3],\"to\":\"Ada\"\x7d") := by
    decide +kernel
  have hfilled' : greeted.environment.bindings.fillLeaves greetingBody = .ok filled := hfilled
  rw [hfilled'] at htext
  exact ⟨rfl, .object _, hfits, request, filled, hrequest, hfilled', hbody request hrequest,
    Option.some.inj htext⟩

end Caller

end RestSuite
