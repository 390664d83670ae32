import RestSuite.Json.Path
import RestSuite.Json.Printer
import RestSuite.Proofs.Sequencing

/-!
# Every node has a path

A path is read sign by sign, and a name in it can hold nearly every sign that a path is made of. So it is
said here how steps can be written down, and that what is written down leads where the steps lead.

* **`Json.Leads`** — the node that steps lead to, said without paths.
* **`Json.Path.Spells`** — the ways to write steps: an index in brackets, a name in brackets and quotes,
  or a name behind a point.
* **`Json.Path.steps_spelled`** — what is written in these ways is read back.
* **`Json.select_spelled`** — so a path selects the node that its steps lead to, however they are
  written, and otherwise names the first step that leads nowhere.
-/

namespace RestSuite.Json

variable {document node next last : Json} {step : Step} {steps more : List Step}

/-! ## Where steps lead -/

/-- A step leads from a node to another. Of several members of one name the first one counts. -/
inductive Follows : Json → Step → Json → Prop where
  | field {before after : List (String × Json)} {name : String} {next : Json}
      (hbefore : name ∉ OrderedMap.keys before) :
      Follows (.object (before ++ (name, next) :: after)) (.field name) next
  | index {items : List Json} {i : Nat} {next : Json} (hitem : items[i]? = some next) :
      Follows (.array items) (.index i) next

/-- Steps lead from a node to another, one after the other. -/
inductive Leads : Json → List Step → Json → Prop where
  | nil (node : Json) : Leads node [] node
  | cons {node next last : Json} {step : Step} {more : List Step} (hstep : Follows node step next)
      (hmore : Leads next more last) : Leads node (step :: more) last

/-- What is said of a step that leads nowhere. -/
def Step.missing : Step → PathError
  | .field name => .fieldNotFound name
  | .index i => .indexOutOfBounds i

theorem follow_eq_ok_iff : Path.follow node step = .ok next ↔ Follows node step next := by
  constructor
  · intro h
    unfold Path.follow at h
    split at h
    · next name =>
      split at h
      · next found hfound =>
        cases h
        cases node with
        | object members =>
          obtain ⟨before, after, rfl, hbefore⟩ := OrderedMap.get?_eq_some_iff.1 hfound
          exact .field hbefore
        | _ => cases hfound
      · cases h
    · next i =>
      split at h
      · next found hfound =>
        cases h
        cases node with
        | array items => exact .index hfound
        | _ => cases hfound
      · cases h
  · intro h
    cases h with
    | @field before after name next hbefore =>
      have hget : OrderedMap.get? (before ++ (name, next) :: after) name = some next :=
        OrderedMap.get?_eq_some_iff.2 ⟨before, after, rfl, hbefore⟩
      simp [Path.follow, field?, hget]
    | index hitem => simp [Path.follow, item?, hitem]

theorem follow_eq_error_iff {e : PathError} :
    Path.follow node step = .error e ↔ (∀ next, ¬ Follows node step next) ∧ e = step.missing := by
  have hmissing : ∀ e, Path.follow node step = .error e → e = step.missing := by
    intro e h
    unfold Path.follow at h
    split at h <;> split at h <;> cases h <;> rfl
  constructor
  · intro h
    refine ⟨fun next hnext => ?_, hmissing e h⟩
    cases h.symm.trans (follow_eq_ok_iff.2 hnext)
  · rintro ⟨hno, rfl⟩
    match hfollow : Path.follow node step with
    | .ok next => exact absurd (follow_eq_ok_iff.1 hfollow) (hno next)
    | .error e => rw [hmissing e hfollow]

theorem followAll_eq_ok_iff : Path.followAll node steps = .ok last ↔ Leads node steps last := by
  induction steps generalizing node with
  | nil =>
    constructor
    · intro h
      cases h
      exact .nil _
    · intro h
      cases h
      rfl
  | cons step more ih =>
    rw [Path.followAll, bind_eq_ok_iff]
    constructor
    · rintro ⟨next, hnext, hmore⟩
      exact .cons (follow_eq_ok_iff.1 hnext) (ih.1 hmore)
    · intro h
      cases h with
      | cons hstep hmore => exact ⟨_, follow_eq_ok_iff.2 hstep, ih.2 hmore⟩

/-- Following steps fails at the first of them that leads nowhere. -/
theorem followAll_eq_error_iff {e : PathError} :
    Path.followAll node steps = .error e ↔
      ∃ done step rest reached, steps = done ++ step :: rest ∧ Leads node done reached
        ∧ (∀ next, ¬ Follows reached step next) ∧ e = step.missing := by
  induction steps generalizing node with
  | nil =>
    refine iff_of_false nofun ?_
    rintro ⟨done, step, rest, reached, hsteps, -⟩
    cases (List.append_eq_nil_iff.1 hsteps.symm).2
  | cons step more ih =>
    rw [Path.followAll, bind_eq_error_iff, follow_eq_error_iff]
    constructor
    · rintro (⟨hno, rfl⟩ | ⟨next, hnext, hmore⟩)
      · exact ⟨[], step, more, _, rfl, .nil _, hno, rfl⟩
      · obtain ⟨done, lost, rest, reached, rfl, hdone, hno, rfl⟩ := ih.1 hmore
        exact ⟨step :: done, lost, rest, reached, rfl,
          .cons (follow_eq_ok_iff.1 hnext) hdone, hno, rfl⟩
    · rintro ⟨done, lost, rest, reached, hsteps, hdone, hno, rfl⟩
      cases hdone with
      | nil =>
        cases hsteps
        exact .inl ⟨hno, rfl⟩
      | cons hstep hmore =>
        cases hsteps
        exact .inr ⟨_, follow_eq_ok_iff.2 hstep, ih.2 ⟨_, lost, rest, reached, rfl, hmore, hno, rfl⟩⟩

/-! ## How steps are written -/

namespace Path

/-- A text spells steps. An index stands in brackets, in decimal. A name stands in brackets between
quotes of either kind, if it does not hold the closing bracket; or it stands behind a point, if it is not
empty, holds neither sign that begins a step and does not end the path in a blank. -/
inductive Spells : List Step → List Char → Prop where
  | root : Spells [] []
  | index {i : Nat} {more : List Step} {text : List Char} (hi : i < 0x10000000000000000)
      (hmore : Spells more text) : Spells (.index i :: more) ('[' :: decimal i ++ ']' :: text)
  | quoted {name : String} {quote : Char} {more : List Step} {text : List Char}
      (hquote : quote = '\'' ∨ quote = '"') (hname : ']' ∉ name.toList)
      (hmore : Spells more text) :
      Spells (.field name :: more) ('[' :: quote :: name.toList ++ quote :: ']' :: text)
  | dotted {name : String} {more : List Step} {text : List Char} (hne : name ≠ "")
      (hname : ∀ c ∈ name.toList, c ≠ '.' ∧ c ≠ '[')
      (hlast : more = [] → ∀ c ∈ name.toList.getLast?, Text.isBlank c = false)
      (hmore : Spells more text) : Spells (.field name :: more) ('.' :: name.toList ++ text)

variable {text cs : List Char}

/-! ### Blanks -/

theorem trim_of_no_blank (hfirst : ∀ c ∈ cs.head?, Text.isBlank c = false)
    (hlast : ∀ c ∈ cs.getLast?, Text.isBlank c = false) : Text.trim cs = cs := by
  have hkeep : ∀ ds : List Char, (∀ c ∈ ds.head?, Text.isBlank c = false) →
      Text.trimFront ds = ds := by
    intro ds hds
    cases ds with
    | nil => rfl
    | cons d ds => exact List.dropWhile_cons_of_neg (by simp [hds d rfl])
  unfold Text.trim Text.trimBack
  rw [hkeep cs hfirst, hkeep cs.reverse (by rwa [List.head?_reverse]), List.reverse_reverse]

theorem Spells.eq_nil (h : Spells steps []) : steps = [] := by
  generalize htext : ([] : List Char) = text at h
  cases h with
  | root => rfl
  | _ => simp at htext

/-- A path that spells steps has no blank at its end. -/
theorem Spells.getLast?_not_blank (h : Spells steps text) {first : Char}
    (hfirst : Text.isBlank first = false) :
    ∀ c ∈ (first :: text).getLast?, Text.isBlank c = false := by
  have hbracket : ∀ (front : List Char) {behind : List Char},
      (∀ c ∈ (']' :: behind).getLast?, Text.isBlank c = false) →
      ∀ c ∈ (front ++ ']' :: behind).getLast?, Text.isBlank c = false := by
    intro front behind hbehind c hc
    rw [List.getLast?_append] at hc
    simp only [List.getLast?_cons, Option.some_or] at hc hbehind
    exact hbehind c hc
  induction h generalizing first with
  | root => simpa using hfirst
  | @index i _ _ _ _ ih => exact hbracket (first :: '[' :: decimal i) (ih (by decide))
  | @quoted name quote _ _ _ _ _ ih =>
    have hlast := hbracket (first :: '[' :: quote :: name.toList ++ [quote]) (ih (by decide))
    simpa using hlast
  | @dotted name more text hne _ hlast hmore ih =>
    intro c hc
    cases text with
    | nil =>
      -- here the path ends with the name
      rw [hmore.eq_nil] at hlast
      refine hlast rfl c ?_
      have hname : name.toList ≠ [] := by simpa using hne
      rw [List.append_nil, List.getLast?_cons_of_ne_nil (by simp),
        List.getLast?_cons_of_ne_nil hname] at hc
      exact hc
    | cons d text =>
      refine @ih first hfirst c ?_
      rw [← List.cons_append, List.getLast?_append, List.getLast?_cons, Option.some_or] at hc
      rw [List.getLast?_cons_of_ne_nil (by simp), List.getLast?_cons]
      exact hc

/-! ### Steps in brackets -/

theorem isBlank_of_isDigit {c : Char} (h : c.isDigit = true) : Text.isBlank c = false := by
  simp only [Char.isDigit, Bool.and_eq_true, decide_eq_true_eq] at h
  obtain ⟨hlow, hhigh⟩ := h
  have hlow : 48 ≤ c.toNat := hlow
  have hhigh : c.toNat ≤ 57 := hhigh
  unfold Text.isBlank
  simp only [Bool.or_eq_false_iff, Bool.and_eq_false_imp, decide_eq_true_eq,
    decide_eq_false_iff_not, Nat.not_le, beq_eq_false_iff_ne, ne_eq]
  omega

theorem unquote?_eq_some_iff {quote : Char} {name : List Char} :
    unquote? quote text = some name ↔ text = quote :: (name ++ [quote]) := by
  constructor
  · intro h
    unfold unquote? at h
    split at h
    · cases h
    · next c rest =>
      split at h
      · next hquotes =>
        obtain ⟨rfl, hlast⟩ := hquotes
        obtain ⟨front, rfl⟩ := List.getLast?_eq_some_iff.1 hlast
        rw [List.dropLast_concat] at h
        cases h
        rfl
      · cases h
  · rintro rfl
    simp [unquote?]

/-- Digits are read as the number that they spell. -/
theorem natural?_eq_some_iff {n : Nat} : natural? text = some n ↔
    text ≠ [] ∧ (∀ c ∈ text, c.isDigit = true) ∧ n = Nat.ofDigitChars 10 text 0 := by
  have hvalue : text.foldl (fun n c => n * 10 + (c.toNat - '0'.toNat)) 0 =
      Nat.ofDigitChars 10 text 0 := by
    simp only [Nat.ofDigitChars, Nat.mul_comm 10]
  unfold natural?
  rw [hvalue]
  split
  · next hdigits =>
    rw [List.all_eq_true] at hdigits
    constructor
    · intro h
      cases h
      exact ⟨hdigits.1, hdigits.2, rfl⟩
    · rintro ⟨-, -, rfl⟩
      rfl
  · next hno =>
    rw [List.all_eq_true] at hno
    constructor
    · intro h
      cases h
    · rintro ⟨hne, hdigits, -⟩
      exact absurd ⟨hne, hdigits⟩ hno

theorem natural?_decimal (i : Nat) : natural? (decimal i) = some i := by
  have hdigit : ∀ c ∈ decimal i, c.isDigit = true :=
    fun c hc => Nat.isDigit_of_mem_toDigits (by omega) (by omega) hc
  have hread : Nat.ofDigitChars 10 (decimal i) 0 = i :=
    Nat.ofDigitChars_toDigits (by omega) (by omega)
  exact natural?_eq_some_iff.2 ⟨Nat.toDigits_ne_nil, hdigit, hread.symm⟩

theorem bracketStep_decimal {i : Nat} (hi : i < 0x10000000000000000) :
    bracketStep (decimal i) = .ok (.index i) := by
  have hdigit : ∀ c ∈ decimal i, c.isDigit = true :=
    fun c hc => Nat.isDigit_of_mem_toDigits (by omega) (by omega) hc
  have htrim : Text.trim (decimal i) = decimal i :=
    trim_of_no_blank (fun c hc => isBlank_of_isDigit (hdigit c (List.mem_of_mem_head? hc)))
      fun c hc => isBlank_of_isDigit (hdigit c (List.mem_of_mem_getLast? hc))
  have hvalue := natural?_decimal i
  unfold bracketStep
  simp only [htrim]
  cases hdigits : decimal i with
  | nil => exact absurd hdigits Nat.toDigits_ne_nil
  | cons c rest =>
    -- a digit is neither a quote nor a plus sign
    have hc : c.isDigit = true := hdigit c (by simp [hdigits])
    have hsingle : c ≠ '\'' := by rintro rfl; cases hc
    have hdouble : c ≠ '"' := by rintro rfl; cases hc
    have hplus : c ≠ '+' := by rintro rfl; cases hc
    rw [hdigits] at hvalue
    have hsign : ¬ (c :: rest).head? = some '+' := fun h => hplus (Option.some.inj h)
    have hindex : index? (c :: rest) = some i := by
      unfold index?
      dsimp only
      rw [if_neg hsign, hvalue]
      exact if_pos (decide_eq_true hi)
    simp [unquote?, hsingle, hdouble, hindex]

theorem bracketStep_quoted {quote : Char} (hquote : quote = '\'' ∨ quote = '"') (name : String) :
    bracketStep (quote :: (name.toList ++ [quote])) = .ok (.field name) := by
  have hblank : Text.isBlank quote = false := by
    rcases hquote with rfl | rfl <;> decide
  have hlast : (quote :: (name.toList ++ [quote])).getLast? = some quote := by
    rw [← List.cons_append, List.getLast?_concat]
  have htrim : Text.trim (quote :: (name.toList ++ [quote])) = quote :: (name.toList ++ [quote]) :=
    trim_of_no_blank (by simpa using hblank) (by simpa [hlast] using hblank)
  have hunquote : unquote? quote (quote :: (name.toList ++ [quote])) = some name.toList :=
    unquote?_eq_some_iff.2 rfl
  unfold bracketStep
  simp only [htrim]
  rcases hquote with rfl | rfl
  · simp [hunquote]
  · have hother : unquote? '\'' ('"' :: (name.toList ++ ['"'])) = none := by
      simp [unquote?]
    simp [hunquote, hother]

/-- What stands in front of the first closing bracket is read up to it, and the rest stays. -/
theorem takeWhile_closing {inner : List Char} (h : ']' ∉ inner) (text : List Char) :
    (inner ++ ']' :: text).takeWhile (fun c => decide (c ≠ ']')) = inner
      ∧ (inner ++ ']' :: text).dropWhile (fun c => decide (c ≠ ']')) = ']' :: text := by
  have hplain : ∀ c ∈ inner, decide (c ≠ ']') = true := by
    intro c hc
    simpa using fun heq : c = ']' => h (heq ▸ hc)
  constructor
  · rw [List.takeWhile_append_of_pos hplain]
    simp
  · rw [List.dropWhile_append_of_pos hplain]
    simp

/-- A segment in brackets is read up to the first closing bracket, and the path goes on behind it. -/
theorem steps_closed {first : List Char} (hfirst : ']' ∉ first) (rest : List Char) :
    Path.steps ('[' :: (first ++ ']' :: rest)) = (do
      let step ← bracketStep first
      let more ← Path.steps rest
      .ok (step :: more)) := by
  obtain ⟨htake, hdrop⟩ := takeWhile_closing hfirst rest
  rw [Path.steps, htake, hdrop]
  simp

theorem steps_bracket {inner : List Char} (h : ']' ∉ inner) (hstep : bracketStep inner = .ok step)
    (text : List Char) :
    Path.steps ('[' :: inner ++ ']' :: text) = (Path.steps text).map (step :: ·) := by
  rw [List.cons_append, steps_closed h, hstep]
  cases Path.steps text <;> rfl

/-! ### Whole paths -/

theorem steps_point (text : List Char) : Path.steps ('.' :: text) = Path.steps text := by
  rw [Path.steps]
  simp

/-- A name is read up to the next sign that begins a step. -/
theorem steps_plain {c : Char} (hc : isPlain c = true) (rest : List Char) : Path.steps (c :: rest) = (do
    let more ← Path.steps (rest.dropWhile isPlain)
    .ok (.field (String.ofList (c :: rest.takeWhile isPlain)) :: more)) := by
  simp only [isPlain, Bool.and_eq_true, decide_eq_true_eq] at hc
  rw [Path.steps, if_neg hc.1, if_neg hc.2]

/-- What spells steps begins with a sign that ends a name. -/
theorem Spells.head?_not_plain (h : Spells steps text) :
    ∀ c ∈ text.head?, isPlain c = false := by
  cases h with
  | root => simp
  | _ => simp [isPlain]

theorem steps_name {name : String} (hne : name ≠ "")
    (hname : ∀ c ∈ name.toList, isPlain c = true) (htext : ∀ c ∈ text.head?, isPlain c = false) :
    Path.steps (name.toList ++ text) = (Path.steps text).map (.field name :: ·) := by
  have htake : text.takeWhile isPlain = [] := by
    cases text with
    | nil => rfl
    | cons d text => simp [htext d rfl]
  have hdrop : text.dropWhile isPlain = text := by
    cases text with
    | nil => rfl
    | cons d text => simp [htext d rfl]
  cases hchars : name.toList with
  | nil => exact absurd (by simpa using hchars) hne
  | cons c rest =>
    rw [hchars] at hname
    have hrest : ∀ d ∈ rest, isPlain d = true := fun d hd => hname d (by simp [hd])
    have hback : String.ofList (c :: rest) = name := by rw [← hchars, String.ofList_toList]
    rw [List.cons_append, steps_plain (hname c (by simp)), List.takeWhile_append_of_pos hrest,
      List.dropWhile_append_of_pos hrest, htake, hdrop, List.append_nil, hback]
    cases Path.steps text <;> rfl

/-- **What spells steps is read back as them.** -/
theorem steps_spelled (h : Spells steps text) : Path.steps text = .ok steps := by
  induction h with
  | root => rw [Path.steps]
  | @index i _ _ hi _ ih =>
    have hplain : ']' ∉ decimal i := by
      intro hmem
      cases Nat.isDigit_of_mem_toDigits (by omega) (by omega) hmem
    rw [steps_bracket hplain (bracketStep_decimal hi), ih]
    rfl
  | @quoted name quote _ text hquote hname _ ih =>
    have hplain : ']' ∉ quote :: (name.toList ++ [quote]) := by
      rcases hquote with rfl | rfl <;> simp [hname]
    have hread := steps_bracket hplain (bracketStep_quoted hquote name) text
    simpa [ih, Except.map] using hread
  | @dotted name _ _ hne hname _ hmore ih =>
    have hplain : ∀ c ∈ name.toList, isPlain c = true := by
      intro c hc
      simpa [isPlain] using hname c hc
    rw [List.cons_append, steps_point, steps_name hne hplain hmore.head?_not_plain, ih]
    rfl

/-- The sign for the root and the steps behind it are read as the steps. -/
theorem withoutRoot_spelled (h : Spells steps text) : withoutRoot ('$' :: text) = text := by
  have htrim : Text.trim ('$' :: text) = '$' :: text :=
    trim_of_no_blank (by simp [Text.isBlank]) (h.getLast?_not_blank (by decide))
  simp [withoutRoot, htrim]

end Path

theorem select_eq_followAll {text : List Char} (h : Path.Spells steps text) :
    document.select (String.ofList ('$' :: text)) = Path.followAll document steps := by
  unfold select
  rw [String.toList_ofList, Path.withoutRoot_spelled h, Path.steps_spelled h]
  rfl

/-- **Every node has a path.** A path that spells steps, in whichever of the ways there are, selects the
node that the steps lead to; and where they lead nowhere, the first step that does so is named. -/
theorem select_spelled (document : Json) {steps : List Step} {text : List Char}
    (h : Path.Spells steps text) :
    (∀ node, document.select (String.ofList ('$' :: text)) = .ok node ↔ Leads document steps node)
      ∧ (∀ e, document.select (String.ofList ('$' :: text)) = .error e ↔
          ∃ done step rest reached, steps = done ++ step :: rest ∧ Leads document done reached
            ∧ (∀ next, ¬ Follows reached step next) ∧ e = step.missing)
      ∧ ∀ other, Path.Spells steps other → document.select (String.ofList ('$' :: other))
          = document.select (String.ofList ('$' :: text)) := by
  refine ⟨fun node => ?_, fun e => ?_, fun other hother => ?_⟩
  · rw [select_eq_followAll h, followAll_eq_ok_iff]
  · rw [select_eq_followAll h, followAll_eq_error_iff]
  · rw [select_eq_followAll h, select_eq_followAll hother]

theorem select_spelled_mixed :
    Path.Spells [.field "a", .field "b c", .index 1, .field "d'e"] ".a['b c'][1][\"d'e\"]".toList
      ∧ select (.object [("a", .object [("b c", .array [.null, .object [("d'e", .bool true)]])])])
          "$.a['b c'][1][\"d'e\"]" = .ok (.bool true) := by
  have hname : Path.Spells [.field "d'e"] "[\"d'e\"]".toList :=
    .quoted (.inr rfl) (by decide) .root
  have hindex : Path.Spells [.index 1, .field "d'e"] "[1][\"d'e\"]".toList :=
    .index (by decide) hname
  have hblank : Path.Spells [.field "b c", .index 1, .field "d'e"] "['b c'][1][\"d'e\"]".toList :=
    .quoted (.inl rfl) (by decide) hindex
  have hspells : Path.Spells [.field "a", .field "b c", .index 1, .field "d'e"]
      ".a['b c'][1][\"d'e\"]".toList :=
    .dotted (by decide) (by simp) (by simp) hblank
  have honly : ∀ name next, Follows (.object [(name, next)]) (.field name) next :=
    fun name next => @Follows.field [] [] name next (by simp [OrderedMap.keys])
  refine ⟨hspells, ((select_spelled _ hspells).1 _).2 ?_⟩
  exact .cons (honly "a" _) (.cons (honly "b c" _) (.cons (.index rfl)
    (.cons (honly "d'e" _) (.nil _))))

end RestSuite.Json
