import RestSuite.Behavior.Assertions
import RestSuite.Proofs.Behavior.Targets
import RestSuite.Proofs.Pattern.Wrapping

/-!
# Patterns that have to take a whole

The assertions for the status and for headers hold a part of the response against a pattern, which has
to take it from its first to its last character. They put the text of the pattern into a group between
the two ends of the text and read that. Most texts mean the same there as they do alone. A text that
closes the group itself does not, and neither does one that ends in a comment.

* **`Assertion.Compares`** — when an assertion holds something against a pattern.
* **`Assertion.Comparison.IsWhole`** — the verdict goes by the pattern alone and the whole subject.
* **`Assertion.Compares.given_eq`** — what an assertion does instead.
* **`Assertion.judgesWhole_iff`** — for which texts the two are the same.
-/

namespace RestSuite

namespace Assertion

/-! ## Comparisons -/

/-- A part of the response that a rule holds against a pattern. -/
structure Comparison where
  /-- The text of the pattern, expanded. -/
  text : String
  subject : String
  /-- What the rule gives. -/
  given : Except RuleError Verdict
  /-- What the rule gives if the subject matches. -/
  matched : Except RuleError Verdict
  /-- The message for a subject that does not match. -/
  message : String

/-- A rule makes a comparison: of the status, or of a header once those before it match. -/
inductive Compares (rule : Rule) (scene : Scene) : Comparison → Prop where
  | status {response : Response} {raw text : String} (hresponse : scene.response = some response)
      (hconfig : rule.config = .string raw) (hexpand : scene.expand raw = .ok text) :
      Compares rule scene
        { text := text
          subject := toString response.status
          given := status rule scene
          matched := .ok .pass
          message := s!"status {response.status} does not match {rule.config.text}" }
  | header {response : Response} {before after : List (String × Json)} {name raw value text : String}
      (hresponse : scene.response = some response)
      (hconfig : rule.config = .object (before ++ (name, .string raw) :: after))
      (hbefore : checkHeaders rule scene response before = .ok .pass)
      (hvalue : response.header? name = some value) (hexpand : scene.expand raw = .ok text) :
      Compares rule scene
        { text := text
          subject := value
          given := headers rule scene
          matched := checkHeaders rule scene response after
          message := s!"header '{name}' value '{value}' does not match '{text}'" }

/-- The error for a pattern that cannot be used. -/
def invalidPattern (rule : Rule) (text : String) (e : PatternError) : RuleError :=
  rule.malformed s!"invalid pattern '{text}': {e.message}"

/-- A comparison goes by what its pattern is alone: the rule is malformed if it is none, and else the
subject matches if the pattern takes it as a whole. -/
structure Comparison.IsWhole (rule : Rule) (c : Comparison) : Prop where
  malformed : (∀ p, Pattern.ofString c.text ≠ .ok p) →
    ∃ e, c.given = .error (invalidPattern rule c.text e)
  matched : ∀ p, Pattern.ofString c.text = .ok p → p.TakesWhole c.subject → c.given = c.matched
  missed : ∀ p, Pattern.ofString c.text = .ok p → ¬ p.TakesWhole c.subject →
    c.given = .ok (.fail c.message)

/-- Every comparison with the pattern of a text goes by what it is alone. -/
def JudgesWhole (text : String) : Prop :=
  ∀ rule scene (c : Comparison), Compares rule scene c → c.text = text → c.IsWhole rule

variable {rule : Rule} {scene : Scene} {response : Response} {c : Comparison} {text : String}

/-! ## What an assertion gives -/

/-- A pattern is read, and then something is held against it. -/
theorem anchored_bind {α : Type} (rule : Rule) (text : String) (f : Pattern → Except RuleError α) :
    anchored rule text >>= f = match Pattern.anchored text with
      | .error e => .error (invalidPattern rule text e)
      | .ok p => f p := by
  unfold anchored
  cases Pattern.anchored text <;> rfl

/-- A header that is there is held against its pattern. -/
theorem checkHeaders_cons {name raw value : String} (rest : List (String × Json))
    (hexpand : scene.expand raw = .ok text) (hvalue : response.header? name = some value) :
    checkHeaders rule scene response ((name, .string raw) :: rest) =
      match Pattern.anchored text with
      | .error e => .error (invalidPattern rule text e)
      | .ok p =>
        if p.isMatch value then checkHeaders rule scene response rest
        else .ok (.fail s!"header '{name}' value '{value}' does not match '{text}'") := by
  rw [checkHeaders]
  simp only [hexpand, hvalue, ok_bind, anchored_bind]

/-- Headers that match do not decide. -/
theorem checkHeaders_append {before : List (String × Json)} (after : List (String × Json))
    (h : checkHeaders rule scene response before = .ok .pass) :
    checkHeaders rule scene response (before ++ after) = checkHeaders rule scene response after := by
  induction before with
  | nil => rfl
  | cons member rest ih =>
    obtain ⟨name, value⟩ := member
    cases value with
    | string raw =>
      have hparts := h
      rw [checkHeaders] at hparts
      obtain ⟨text, hexpand, hparts⟩ := bind_eq_ok_iff.1 hparts
      cases hvalue : response.header? name with
      | none =>
        rw [hvalue] at hparts
        cases hparts
      | some value =>
        rw [checkHeaders_cons _ hexpand hvalue] at h
        rw [List.cons_append, checkHeaders_cons _ hexpand hvalue]
        cases hpattern : Pattern.anchored text with
        | error e =>
          rw [hpattern] at h
          cases h
        | ok p =>
          rw [hpattern] at h
          dsimp only at h ⊢
          split at h
          · next hmatch => exact (if_pos hmatch).trans (ih h)
          · cases h
    | _ => cases h

/-- **What a comparison gives** goes by what its pattern is in a group. -/
theorem Compares.given_eq (h : Compares rule scene c) :
    c.given = match Pattern.anchored c.text with
      | .error e => .error (invalidPattern rule c.text e)
      | .ok p => if p.isMatch c.subject then c.matched else .ok (.fail c.message) := by
  cases h with
  | @status response raw text hresponse hconfig hexpand =>
    dsimp only
    unfold Assertion.status
    simp only [Extractor.getResponse_eq_ok_iff.2 hresponse, hconfig, hexpand, ok_bind, anchored_bind]
    cases Pattern.anchored text with
    | error e => rfl
    | ok p => exact apply_ite Except.ok _ _ _
  | header hresponse hconfig hbefore hvalue hexpand =>
    dsimp only
    unfold Assertion.headers
    rw [hconfig]
    simp only [Extractor.getResponse_eq_ok_iff.2 hresponse, ok_bind]
    rw [checkHeaders_append _ hbefore, checkHeaders_cons _ hexpand hvalue]

/-! ## Every text is the pattern of a rule -/

/-- A rule whose pattern is a variable. -/
def holdingRule : Rule :=
  ⟨.assertion, "status", .string "\x7b@pattern@\x7d", false, "holding"⟩

/-- A call with a text bound to that variable. -/
def holding (text : String) : Scene :=
  ⟨⟨"holding", [], none, none, .empty⟩, none, some .ok, ⟨[("pattern", .string text)], .empty, none⟩⟩

theorem expand_holding (text : String) : (holding text).expand "\x7b@pattern@\x7d" = .ok text := by
  have hpieces : Placeholder.pieces "\x7b@pattern@\x7d".toList = [.reference "pattern"] := by
    decide +kernel
  have hsubstitute : Bindings.substitute [("pattern", .string text)] "\x7b@pattern@\x7d" = .ok text := by
    unfold Bindings.substitute
    rw [hpieces]
    simp [Bindings.fillAll, Bindings.fill, Bindings.text?, OrderedMap.get?, Json.display, ok_bind]
  have hredirect : redirectPath? "\x7b@pattern@\x7d" = none := by decide +kernel
  simp only [Scene.expand, holding, Scope.expand, Scope.resolveRedirect, hredirect, ok_bind,
    hsubstitute, Except.mapError]

/-- The status of a call held against a text. -/
def holdingComparison (text : String) : Comparison where
  text := text
  subject := "200"
  given := status holdingRule (holding text)
  matched := .ok .pass
  message := s!"status 200 does not match {holdingRule.config.text}"

theorem compares_holding (text : String) :
    Compares holdingRule (holding text) (holdingComparison text) :=
  .status rfl rfl (expand_holding text)

/-- A text is judged as a whole exactly if it is a pattern both alone and in a group, or neither. -/
theorem judgesWhole_iff_accepted (text : String) : JudgesWhole text ↔
    ((∃ p, Pattern.ofString text = .ok p) ↔ ∃ p, Pattern.anchored text = .ok p) := by
  constructor
  · intro h
    have hgiven := (compares_holding text).given_eq
    have hwhole := h _ _ _ (compares_holding text) rfl
    constructor
    · rintro ⟨p, hp⟩
      cases hanchored : Pattern.anchored text with
      | ok q => exact ⟨q, rfl⟩
      | error e =>
        -- the rule would be malformed, but its pattern is one
        dsimp only [holdingComparison] at hgiven
        rw [hanchored] at hgiven
        by_cases htakes : p.TakesWhole "200"
        · cases hgiven.symm.trans (hwhole.matched p hp htakes)
        · cases hgiven.symm.trans (hwhole.missed p hp htakes)
    · rintro ⟨q, hq⟩
      by_contra hnone
      -- the rule gives a verdict, but its pattern is none
      obtain ⟨e, herror⟩ := hwhole.malformed fun p hp => hnone ⟨p, hp⟩
      rw [hgiven] at herror
      dsimp only [holdingComparison] at herror
      rw [hq] at herror
      cases (apply_ite Except.ok _ _ _).trans herror
  · rintro haccepted rule scene c hcompares rfl
    have hgiven := hcompares.given_eq
    have hmatch : ∀ {p}, Pattern.ofString c.text = .ok p →
        ∃ q, Pattern.anchored c.text = .ok q ∧ (q.isMatch c.subject = true ↔ p.TakesWhole c.subject) := by
      intro p hp
      obtain ⟨q, hq⟩ := haccepted.1 ⟨p, hp⟩
      obtain rfl := Pattern.eq_whole_of_anchored hp hq
      exact ⟨_, hq, Pattern.isMatch_whole_iff⟩
    constructor
    · intro hnone
      cases hanchored : Pattern.anchored c.text with
      | ok q =>
        obtain ⟨p, hp⟩ := haccepted.2 ⟨q, hanchored⟩
        exact absurd hp (hnone p)
      | error e =>
        rw [hanchored] at hgiven
        exact ⟨e, hgiven⟩
    · intro p hp htakes
      obtain ⟨q, hq, hiff⟩ := hmatch hp
      rw [hgiven, hq]
      exact if_pos (hiff.2 htakes)
    · intro p hp htakes
      obtain ⟨q, hq, hiff⟩ := hmatch hp
      rw [hgiven, hq]
      exact if_neg fun h => htakes (hiff.1 h)

/-- A rule does not pass where the pattern does not take the subject as a whole. -/
theorem Compares.given_ne_pass (h : Compares rule scene c) {p : Pattern}
    (hp : Pattern.ofString c.text = .ok p) (hmissed : ¬ p.TakesWhole c.subject) :
    c.given ≠ .ok .pass := by
  rw [h.given_eq]
  cases hanchored : Pattern.anchored c.text with
  | error e => nofun
  | ok q =>
    obtain rfl := Pattern.eq_whole_of_anchored hp hanchored
    have hmatch : ¬ p.whole.isMatch c.subject = true := fun h => hmissed (Pattern.isMatch_whole_iff.1 h)
    dsimp only
    rw [if_neg hmatch]
    nofun

/-- **Which patterns have to take a whole.** A text is judged as one exactly if the group changes nothing
about whether it is accepted: the limits allow both or neither, no comment runs on into the end of the
group, and a text that closes the group itself is refused. In any case a rule whose text is a pattern does
not pass on a part of the subject. -/
theorem judgesWhole_iff (text : String) :
    (JudgesWhole text ↔
      (∀ p, Pattern.Reads text.toList p →
        (p.Fits ↔ p.anchored.Fits ∧ ¬ Pattern.HidesClosing text.toList))
      ∧ (Pattern.Oversteps text.toList → ∀ p, Pattern.anchored text ≠ .ok p))
    ∧ ∀ p, Pattern.ofString text = .ok p → ∀ rule scene (c : Comparison), Compares rule scene c →
      c.text = text → ¬ p.TakesWhole c.subject → c.given ≠ .ok .pass := by
  refine ⟨(judgesWhole_iff_accepted text).trans (Pattern.accepted_iff text), ?_⟩
  rintro p hp rule scene c hcompares rfl hmissed
  exact hcompares.given_ne_pass hp hmissed

/-- The front of some statuses, and another status. -/
def alternatives : Pattern :=
  .alt (.seq .empty (.seq (.chars (.single '2')) (.chars (.single '0'))))
    (.seq (.chars (.single '4')) (.seq (.chars (.single '0')) (.chars (.single '4'))))

/-- Alternatives are within the group, and none of them passes on a part. -/
theorem judgesWhole_alternatives : JudgesWhole "(?x) 20 | 404"
    ∧ status holdingRule (holding "(?x) 20 | 404") ≠ .ok .pass := by
  have halone : Pattern.ofString "(?x) 20 | 404" = .ok alternatives := by decide +kernel
  have hanchored : Pattern.anchored "(?x) 20 | 404" = .ok alternatives.whole := by decide +kernel
  have hmissed : alternatives.whole.isMatch "200" = false := by cbv
  have hjudges := judgesWhole_iff "(?x) 20 | 404"
  refine ⟨hjudges.1.2 ((Pattern.accepted_iff _).1 (iff_of_true ⟨_, halone⟩ ⟨_, hanchored⟩)), ?_⟩
  refine hjudges.2 _ halone _ _ _ (compares_holding _) rfl fun htakes => ?_
  cases hmissed.symm.trans (Pattern.isMatch_whole_iff.2 htakes)

/-- **A text that closes the group and opens another one passes on a part of the subject**, although it is
no pattern. -/
theorem not_judgesWhole_unbalanced : (∀ p, Pattern.ofString "20)|(?:4" ≠ .ok p)
    ∧ status holdingRule (holding "20)|(?:4") = .ok .pass ∧ ¬ JudgesWhole "20)|(?:4" := by
  have hnone : ∀ p, Pattern.ofString "20)|(?:4" ≠ .ok p := by
    intro p hp
    have hok : (Pattern.ofString "20)|(?:4").isOk = false := by decide +kernel
    rw [hp] at hok
    cases hok
  have hanchored : Pattern.anchored "20)|(?:4" = .ok
      (.alt (.seq (.look .textStart) (.group none (.seq (.chars (.single '2')) (.chars (.single '0')))))
        (.seq (.group none (.chars (.single '4'))) (.look .textEnd))) := by
    decide +kernel
  have hpass : status holdingRule (holding "20)|(?:4") = .ok .pass := by
    have hgiven := (compares_holding "20)|(?:4").given_eq
    dsimp only [holdingComparison] at hgiven
    rw [hanchored] at hgiven
    exact hgiven.trans (if_pos (by cbv))
  refine ⟨hnone, hpass, fun hjudges => ?_⟩
  obtain ⟨e, herror⟩ := (hjudges _ _ _ (compares_holding _) rfl).malformed hnone
  cases hpass.symm.trans herror

end Assertion

end RestSuite
