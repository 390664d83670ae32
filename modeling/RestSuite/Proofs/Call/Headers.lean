import RestSuite.Proofs.Call.Variables

/-!
# The headers that a call sends

Every script of a chain declares headers of its own. They are put behind each other when the script is
resolved, expanded when its request is built, and searched from the end when one of them is asked for.
So what a child declares comes before what its ancestors declare, at any distance.

* **`Caller.Fills`** — a header that was declared, and what becomes of it in a request.
* **`Deciding`** — the declaration of a name that counts, among those of a whole chain.
* **`Caller.Ends.builds`** — a request that is in the record of a call was built.
* **`Caller.run_headers`** — which headers a call sends, and which value each name has.
-/

namespace RestSuite

/-! ## The declaration that counts -/

/-- Of the headers that scripts declare, from the root of a chain down, this one decides on a name: it
is the last of the name in its script, and the scripts below do not declare the name. -/
inductive Deciding (name : String) : List (List Header) → Header → Prop where
  | intro {above below : List (List Header)} {before after : List Header} {header : Header}
      (hname : Text.sameIgnoringCase header.1 name = true)
      (hafter : ∀ other ∈ after, Text.sameIgnoringCase other.1 name = false)
      (hbelow : ∀ level ∈ below, ∀ other ∈ level, Text.sameIgnoringCase other.1 name = false) :
      Deciding name (above ++ (before ++ header :: after) :: below) header

variable {name : String} {levels : List (List Header)} {header : Header}

theorem Deciding.find? (h : Deciding name levels header) :
    (levels.flatten.reverse.find? fun other => Text.sameIgnoringCase other.1 name) =
      some header := by
  obtain @⟨above, below, before, after, header, hname, hafter, hbelow⟩ := h
  refine List.find?_eq_some_iff_append.2
    ⟨hname, (after ++ below.flatten).reverse, (above.flatten ++ before).reverse, ?_, ?_⟩
  · simp
  · -- seen from the end, what comes before it stands in its own script or in one below
    intro other hother
    rcases List.mem_append.1 (List.mem_reverse.1 hother) with hmem | hmem
    · rw [hafter other hmem]
      rfl
    · obtain ⟨level, hlevel, hmem⟩ := List.mem_flatten.1 hmem
      rw [hbelow level hlevel other hmem]
      rfl

/-- A search finds items that belong together in lists that do. -/
theorem find?_forall₂ {α β : Type} {R : α → β → Prop} {p : α → Bool} {q : β → Bool} {xs : List α}
    {ys : List β} (h : List.Forall₂ R xs ys) (hpq : ∀ x y, R x y → p x = q y) :
    Option.Rel R (xs.find? p) (ys.find? q) := by
  induction h with
  | nil => exact .none
  | @cons x y xs ys hxy _ ih =>
    rw [List.find?_cons, List.find?_cons, ← hpq x y hxy]
    cases p x with
    | true => exact .some hxy
    | false => exact ih

namespace Caller

variable {σ : Type} {c : Caller σ} {s resolved : ResolvedScript} {w built : World σ}
  {r : Call × World σ} {request : Request}

/-! ## Building -/

/-- A header of a request has the name that was declared, and its text expanded. -/
def Fills (c : Caller σ) (w : World σ) (declared header : Header) : Prop :=
  header.1 = declared.1 ∧ c.expand w declared.2 = .ok header.2

theorem fills_of_expandHeaders {declared headers : List Header}
    (h : c.expandHeaders w declared = .ok headers) : List.Forall₂ (c.Fills w) declared headers := by
  refine (mapM_eq_ok_iff.1 h).imp fun x y hxy => ?_
  obtain ⟨value, hvalue, heq⟩ := bind_eq_ok_iff.1 hxy
  cases heq
  exact ⟨rfl, hvalue⟩

theorem fills_of_prepare (h : c.prepare s w = .ok request) :
    List.Forall₂ (c.Fills w) s.layer.headers request.headers := by
  obtain ⟨_, -, h⟩ := bind_eq_ok_iff.1 h
  obtain ⟨_, -, h⟩ := bind_eq_ok_iff.1 h
  obtain ⟨_, -, h⟩ := bind_eq_ok_iff.1 h
  obtain ⟨headers, hheaders, h⟩ := bind_eq_ok_iff.1 h
  obtain ⟨_, -, h⟩ := bind_eq_ok_iff.1 h
  cases h
  exact fills_of_expandHeaders hheaders

/-- **A request in the record of a call was built.** -/
theorem Ends.builds (h : c.Ends s w r) (hrequest : r.1.request = some request) :
    ∃ built, c.Builds s w request built := by
  have hanswered : ∀ {request response entries w₁}, c.Receives s w request response entries w₁ →
      ∃ built, c.Builds s w request built := fun hreceives => hreceives.builds.imp fun _ h => h.1
  -- the first three ways out leave no request in the record
  cases h with
  | misconfigured _ => cases hrequest
  | stoppedAtStart _ _ => cases hrequest
  | unbuilt _ _ _ => cases hrequest
  | refused hbuilds _ => cases hrequest; exact ⟨_, hbuilds⟩
  | preconditionHalted hbuilds _ => cases hrequest; exact ⟨_, hbuilds⟩
  | stoppedBeforeSending hbuilds _ _ => cases hrequest; exact ⟨_, hbuilds⟩
  | unanswered hsends _ => cases hrequest; exact hsends.builds.imp fun _ h => h.1
  | stoppedOnReceipt hreceives _ => cases hrequest; exact hanswered hreceives
  | extractionHalted hreceives _ _ => cases hrequest; exact hanswered hreceives
  | stoppedBeforeAsserting hextracts _ =>
    cases hrequest
    obtain ⟨hreceives, -, -⟩ := hextracts
    exact hanswered hreceives
  | assertionHalted hasserts _ =>
    cases hrequest
    obtain ⟨⟨hreceives, -, -⟩, -⟩ := hasserts
    exact hanswered hreceives
  | asserted hasserts _ =>
    cases hrequest
    obtain ⟨⟨hreceives, -, -⟩, -⟩ := hasserts
    exact hanswered hreceives

/-! ## Looking up -/

theorem find?_of_fills (h : List.Forall₂ (c.Fills built) levels.flatten request.headers)
    (name : String) :
    Option.Rel (c.Fills built)
      (levels.flatten.reverse.find? fun other => Text.sameIgnoringCase other.1 name)
      (request.headers.reverse.find? fun other => Text.sameIgnoringCase other.1 name) :=
  find?_forall₂ (List.rel_reverse h) fun _ _ hfills => by rw [hfills.1]

theorem header?_of_deciding (h : List.Forall₂ (c.Fills built) levels.flatten request.headers)
    (hdeciding : Deciding name levels header) :
    ∃ value, c.expand built header.2 = .ok value ∧ request.header? name = some value := by
  have hfound := find?_of_fills h name
  rw [hdeciding.find?] at hfound
  unfold Request.header?
  generalize request.headers.reverse.find? _ = found at hfound ⊢
  cases hfound with
  | some hfills => exact ⟨_, hfills.2, rfl⟩

theorem header?_of_undeclared (h : List.Forall₂ (c.Fills built) levels.flatten request.headers)
    (hnone : ∀ level ∈ levels, ∀ other ∈ level, Text.sameIgnoringCase other.1 name = false) :
    request.header? name = none := by
  have hfound := find?_of_fills h name
  have hmissing : (levels.flatten.reverse.find? fun other =>
      Text.sameIgnoringCase other.1 name) = none := by
    refine List.find?_eq_none.2 fun other hother => ?_
    obtain ⟨level, hlevel, hmem⟩ := List.mem_flatten.1 (List.mem_reverse.1 hother)
    rw [hnone level hlevel other hmem]
    exact Bool.false_ne_true
  rw [hmissing] at hfound
  unfold Request.header?
  generalize request.headers.reverse.find? _ = found at hfound ⊢
  cases hfound with
  | none => rfl

/-- **The headers of a chain.** Let a script resolve, and let its call have a request. The scripts of
its chain, from the root down, declare headers; the request has one header for each of them, in the
same order and of the same name, and its value is the text that was declared, expanded under all the
variables that the script binds. Asked for a name, in whatever case, the request gives the value for
the last declaration of the name in the last script of the chain that declares it, and none if no
script does. So a child always overrides its ancestors. -/
theorem run_headers {script : Script} {t : Templates} {b : Bindings}
    (hresolve : script.resolve t b = .ok resolved)
    (hrequest : (c.run resolved w).1.request = some request) :
    ∃ path levels built, t.chain b script = .ok path
      ∧ List.Forall₂ Script.DeclaresHeaders path levels
      ∧ c.bindEnv (w.poll c.services) resolved.layer.env = (.ok (), built)
      ∧ List.Forall₂ (c.Fills built) levels.flatten request.headers
      ∧ (∀ name header, Deciding name levels header →
          ∃ value, c.expand built header.2 = .ok value ∧ request.header? name = some value)
      ∧ ∀ name, (∀ level ∈ levels, ∀ other ∈ level, Text.sameIgnoringCase other.1 name = false) →
          request.header? name = none := by
  obtain ⟨path, levels, hchain, hlevels, hheaders⟩ := Script.headers_of_resolve hresolve
  obtain ⟨built, hbuilds⟩ := (c.run_ends resolved w).builds hrequest
  obtain ⟨hbound, hprepare⟩ := hbuilds.prepares
  have hfills := fills_of_prepare hprepare
  rw [hheaders] at hfills
  exact ⟨path, levels, built, hchain, hlevels, hbound, hfills,
    fun _ _ => header?_of_deciding hfills, fun _ => header?_of_undeclared hfills⟩

/-- A template that sends no credentials, and a number that is set further below. -/
def anonymousTemplate : Script where
  name := "anonymous.template"
  template := none
  fields := [("headers", .object [("Authorization", .string "none"),
      ("X-Trace", .string "\x7b@trace@\x7d")]),
    ("env", .object [("trace", .string "1")])]

/-- A template below it that sends a token. -/
def tokenTemplate : Script where
  name := "token.template"
  template := some "anonymous"
  fields := [("headers", .object [("authorization", .string "Bearer \x7b@token@\x7d")])]

/-- A script below both, with the token and another number. -/
def tokenScript : Script where
  name := "call"
  template := some "token"
  fields := [("GET", .string "/"),
    ("env", .object [("token", .string "t\x7b@trace@\x7d"), ("trace", .string "2")])]

/-- The registry of the two templates. -/
def tokenTemplates : Templates :=
  .ofScripts [anonymousTemplate, tokenTemplate]

/-- The token comes before the header of the template above, whatever the case of the name. -/
theorem run_headers_token :
    ∃ resolved request path levels, tokenScript.resolve tokenTemplates [] = .ok resolved
      ∧ (Replay.caller.run resolved (.start .empty ⟨[], []⟩)).1.request = some request
      ∧ request.headers =
          [("Authorization", "none"), ("X-Trace", "2"), ("authorization", "Bearer t1")]
      ∧ request.header? "AUTHORIZATION" = some "Bearer t1"
      ∧ tokenTemplates.chain [] tokenScript = .ok path
      ∧ List.Forall₂ Script.DeclaresHeaders path levels
      ∧ levels.flatten.length = request.headers.length := by
  have hok : (tokenScript.resolve tokenTemplates []).isOk = true := by decide +kernel
  obtain ⟨resolved, hresolve⟩ := exists_of_isOk hok
  have hsent : ((tokenScript.resolve tokenTemplates []).toOption.bind fun resolved =>
      (Replay.caller.run resolved (.start .empty ⟨[], []⟩)).1.request) =
        some ⟨.get, "/", [("Authorization", "none"), ("X-Trace", "2"),
          ("authorization", "Bearer t1")], none⟩ := by
    decide +kernel
  rw [hresolve] at hsent
  obtain ⟨path, levels, built, hchain, hlevels, -, hfills, -⟩ := run_headers hresolve hsent
  exact ⟨resolved, _, path, levels, hresolve, hsent, rfl, by decide, hchain, hlevels,
    hfills.length_eq⟩

end Caller

end RestSuite
