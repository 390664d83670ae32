import RestSuite.Proofs.Call.Taking
import RestSuite.Proofs.Placeholder

/-!
# Parts of the body by their paths

A rule for a part of the body holds a path, and the path goes through expansion before it is read. So the
sign `@`, which a path may begin with in place of `$`, is the sign of a redirect there.

* **`Caller.TakesPart`** — a rule takes what a path leads to, or fails as the path does.
* **`Caller.takeOne_jsonPath`** — a rule does so by the path it holds; if that is a redirect, by the path
  that the file holds.
* **`Caller.not_takesPart_signed`** — and then not by its own one.
-/

namespace RestSuite

namespace Caller

open Extractor

variable {σ : Type} {c : Caller σ} {rule : Rule} {name p path file : String} {body : Json}
  {response : Response} {s : ResolvedScript} {request : Option Request} {w : World σ}

/-- A rule binds a variable to the node that a path leads to and changes nothing else. Where the path
leads nowhere, it fails with what is wrong with it and changes nothing. -/
def TakesPart (c : Caller σ) (rule : Rule) (scene : Scene) (w : World σ) (name : String) (body : Json)
    (path : String) : Prop :=
  (∀ node, body.select path = .ok node → c.takeOne rule scene w = (.ok (), w.bind name node))
    ∧ ∀ e, body.select path = .error e →
        c.takeOne rule scene w = (.error (.failed s!"{path}: {e.message}"), w)

theorem trim_isInfix (cs : List Char) : Text.trim cs <:+: cs := by
  have hfront : ∀ cs, Text.trimFront cs <:+ cs := fun cs => List.dropWhile_suffix _
  have hback : Text.trimBack (Text.trimFront cs) <+: Text.trimFront cs := by
    have h := List.reverse_prefix.2 (hfront (Text.trimFront cs).reverse)
    rwa [List.reverse_reverse] at h
  exact hback.isInfix.trans (hfront cs).isInfix

/-- The name of a file in a text without placeholders has none either. -/
theorem referenced_of_redirect (hplain : Placeholder.referenced p = [])
    (hredirect : redirectPath? p = some file) : Placeholder.referenced (Text.trimmed file) = [] := by
  have hinfix : (Text.trimmed file).toList <:+: p.toList := by
    unfold redirectPath? at hredirect
    split at hredirect
    · next rest hp =>
      split at hredirect <;> cases hredirect
      rw [hp, Text.trimmed, String.toList_ofList, String.toList_ofList]
      exact (trim_isInfix rest).trans (List.suffix_cons '@' rest).isInfix
    · cases hredirect
  rw [Placeholder.referenced_eq_nil_iff] at hplain ⊢
  intro front n back hname heq
  obtain ⟨before, after, hp⟩ := hinfix
  refine hplain (before ++ front) n (back ++ after) hname ?_
  rw [← hp, heq]
  simp

section

variable (hregistry : c.registry.extractor rule.key = .ok (ofTaker jsonPath))
  (hconfig : rule.config = .object [(name, .string p)]) (hbody : response.json = .ok body)
include hregistry hconfig hbody

/-- What comes of a rule for one part is what comes of its path. -/
theorem takeOne_part :
    c.takeOne rule (c.scene s request (some response) w) w =
      match partAt rule (c.scene s request (some response) w) body name (.string p) with
      | .ok node => (.ok (), w.bind name node)
      | .error e => (.error e, w) := by
  have hjson : (c.scene s request (some response) w).responseJson = .ok body :=
    responseJson_eq_ok_iff.2 ⟨response, rfl, hbody⟩
  have htaken : jsonPath rule (c.scene s request (some response) w) =
      binding (c.scene s request (some response) w)
        (takeParts rule body (c.scene s request (some response) w) [(name, .string p)]) := by
    unfold jsonPath
    rw [hconfig]
    simp only [hjson, ok_bind, orFail]
  -- asking no host leaves the host and the stop as they are
  have hsettle : ∀ x : Extraction, w.settle (Reply.pure x w.host) = w := by
    intro x
    simp [World.settle, Reply.pure]
  unfold takeOne
  rw [hregistry]
  simp only [ofTaker, hsettle, htaken, takeParts]
  cases partAt rule (c.scene s request (some response) w) body name (.string p) <;> rfl

theorem takesPart_of_expand (hexpand : (c.scope w).expand p = .ok path) :
    c.TakesPart rule (c.scene s request (some response) w) w name body path := by
  have hpart : partAt rule (c.scene s request (some response) w) body name (.string p) =
      (body.select path).mapError fun e => .failed s!"{path}: {e.message}" := by
    simp only [partAt, Scene.expand, scene, hexpand, Except.mapError, ok_bind]
  constructor
  · intro node hnode
    rw [takeOne_part hregistry hconfig hbody, hpart, hnode]
    rfl
  · intro e he
    rw [takeOne_part hregistry hconfig hbody, hpart, he]
    rfl

variable (s request w) in
/-- **A rule for a part of the body takes what its path leads to**, whatever files there are. Only where
its path is a redirect, what the file holds is the path, and without the file the rule cannot be run. -/
theorem takeOne_jsonPath (hplain : Placeholder.referenced p = []) :
    (redirectPath? p = none →
      c.TakesPart rule (c.scene s request (some response) w) w name body p)
    ∧ ∀ file full, redirectPath? p = some file →
        full = Path.resolve (Text.trimmed file) c.baseDirectory →
        (∀ text path, w.disk.readText full = .ok text →
          w.environment.bindings.substitute text = .ok path →
          c.TakesPart rule (c.scene s request (some response) w) w name body path)
        ∧ ∀ reason, w.disk.readText full = .error reason →
          c.takeOne rule (c.scene s request (some response) w) w =
            (.error (.binding (.unreadable full reason)), w) := by
  constructor
  · intro hredirect
    refine takesPart_of_expand hregistry hconfig hbody ?_
    simp only [Scope.expand, Scope.resolveRedirect, hredirect, ok_bind]
    exact Bindings.substitute_of_literal _ hplain
  · rintro file _ hredirect rfl
    have hfile := Bindings.substitute_of_literal w.environment.bindings
      (referenced_of_redirect hplain hredirect)
    constructor
    · intro text path hread hpath
      refine takesPart_of_expand hregistry hconfig hbody ?_
      simp only [Scope.expand, Scope.resolveRedirect, hredirect, scope, hfile, ok_bind, hread, hpath]
    · intro reason hread
      have hpart : partAt rule (c.scene s request (some response) w) body name (.string p) =
          .error (.binding
            (.unreadable (Path.resolve (Text.trimmed file) c.baseDirectory) reason)) := by
        simp only [partAt, Scene.expand, scene, Scope.expand, Scope.resolveRedirect, hredirect, scope,
          hfile, ok_bind, hread, error_bind, Except.mapError]
      rw [takeOne_part hregistry hconfig hbody, hpart]

end

/-- A rule for one part of the body. -/
def partRule (name path : String) : Rule :=
  ⟨.extraction, "jsonPath", .object [(name, .string path)], false, "part"⟩

/-- The text that a path leads to in the body of a response. -/
def partText? (response : Response) (path : String) : Option String :=
  (response.json.toOption.bind fun body => (body.select path).toOption).bind Json.text?

theorem partText?_eq_some_iff {text : String} :
    partText? response path = some text ↔
      ∃ body, response.json = .ok body ∧ body.select path = .ok (.string text) := by
  have htoOption : ∀ {ε α : Type} {x : Except ε α} {a : α}, x.toOption = some a ↔ x = .ok a := by
    intro ε α x a
    cases x <;> simp [Except.toOption]
  have htext : ∀ {node : Json}, node.text? = some text ↔ node = .string text := by
    intro node
    cases node <;> simp [Json.text?]
  simp [partText?, Option.bind_eq_some_iff, htoOption, htext]

/-- The world of the rule, with a file that holds a path. -/
def withPathFile : World Replay :=
  { pointed with disk := Disk.empty.put ("part.txt" :: Disk.home) (.file "$.key".toUTF8) }

/-- A rule takes a part by its path, and by a path in a file. -/
theorem takeOne_jsonPath_signpost :
    Replay.caller.takeOne (partRule "part" "$['key']") pointedScene pointed =
        (.ok (), pointed.bind "part" (.string "left"))
      ∧ Replay.caller.takeOne (partRule "part" "@part.txt")
          (Replay.caller.scene ⟨"point", [], none, none, .empty⟩ none (some signpost) withPathFile)
          withPathFile =
        (.ok (), withPathFile.bind "part" (.string "left")) := by
  have hregistry : ∀ path, Replay.caller.registry.extractor (partRule "part" path).key =
      .ok (ofTaker jsonPath) := fun _ => rfl
  constructor
  · obtain ⟨body, hbody, hnode⟩ := partText?_eq_some_iff.1
      (by decide +kernel : partText? signpost "$['key']" = some "left")
    have htakes := takeOne_jsonPath ⟨"point", [], none, none, .empty⟩ none pointed
      (hregistry "$['key']") rfl hbody (by decide +kernel)
    exact (htakes.1 (by decide +kernel)).1 _ hnode
  · obtain ⟨body, hbody, hnode⟩ := partText?_eq_some_iff.1
      (by decide +kernel : partText? signpost "$.key" = some "left")
    have htakes := takeOne_jsonPath ⟨"point", [], none, none, .empty⟩ none withPathFile
      (hregistry "@part.txt") rfl hbody (by decide +kernel)
    have hfile := (htakes.2 "part.txt" "part.txt" (by decide +kernel) (by decide +kernel)).1
    exact (hfile "$.key" "$.key" (by decide +kernel) (by decide +kernel)).1 _ hnode

/-- **A path that begins with the sign `@` is no path for a rule**, though it leads to a node. -/
theorem not_takesPart_signed :
    ∃ body, signpost.json = .ok body ∧ Placeholder.referenced "@.key" = []
      ∧ body.select "@.key" = .ok (.string "left")
      ∧ ¬ Replay.caller.TakesPart (partRule "key" "@.key") pointedScene pointed "key" body "@.key" := by
  obtain ⟨body, hbody, hnode⟩ := partText?_eq_some_iff.1
    (by decide +kernel : partText? signpost "@.key" = some "left")
  refine ⟨body, hbody, by decide +kernel, hnode, fun htakes => ?_⟩
  have hresult : (Replay.caller.takeOne (partRule "key" "@.key") pointedScene pointed).1 =
      .error (.binding (.unreadable ".key" .missing)) := by
    decide +kernel
  rw [htakes.1 _ hnode] at hresult
  cases hresult

end Caller

end RestSuite
