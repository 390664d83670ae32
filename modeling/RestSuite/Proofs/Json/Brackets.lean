import Mathlib.Data.List.TakeWhile
import RestSuite.Proofs.Json.Path

/-!
# Which brackets a path may hold

A bracket opens a segment of a path, and the segment goes up to the first closing bracket. Between them
stands a name in quotes or a number, and nothing else is a step. A reader that comes to the end of the path
within a segment stops there, and what it has read by then can be a step all the same.

* **`Json.Path.Opens`** — the brackets of a path that open a segment, by their contents.
* **`Json.Path.IsSegment`** — the contents that are steps (`exists_bracketStep_iff`).
* **`Json.Path.path_induction`** — induction on a path, by what stands at its front.
* **`Json.Path.exists_steps_iff`** — a path has steps exactly if the contents of its brackets are steps,
  closed or not; and else one of them is to blame (`fault_of_steps`).
* **`Json.Path.steps_of_leftOpen`** — a segment that is left open is read as if it was closed.
* **`Json.Path.judgesBrackets_iff`** — so malformed brackets are refused, but for this one kind.
-/

namespace RestSuite.Json.Path

variable {path rest first inner content text : List Char} {closed : Bool} {c quote : Char}
  {e : PathError}

/-! ## Brackets that open a segment -/

/-- A bracket of a path opens a segment with this content, which is closed or left open. Within a segment
no bracket opens another. -/
inductive Opens : List Char → List Char → Bool → Prop where
  | closed {inner rest : List Char} (hinner : ']' ∉ inner) :
      Opens ('[' :: (inner ++ ']' :: rest)) inner true
  | leftOpen {inner : List Char} (hinner : ']' ∉ inner) : Opens ('[' :: inner) inner false
  /-- A bracket further back, behind a sign that is none. -/
  | sign {c : Char} {path inner : List Char} {closed : Bool} (hc : c ≠ '[')
      (hrest : Opens path inner closed) : Opens (c :: path) inner closed
  /-- A bracket further back, behind a segment that is closed. -/
  | behind {first path inner : List Char} {closed : Bool} (hfirst : ']' ∉ first)
      (hrest : Opens path inner closed) : Opens ('[' :: (first ++ ']' :: path)) inner closed

theorem not_opens_nil : ¬ Opens [] inner closed := nofun

theorem opens_sign_iff (hc : c ≠ '[') : Opens (c :: rest) inner closed ↔ Opens rest inner closed := by
  constructor
  · intro h
    cases h with
    | sign _ hrest => exact hrest
    | _ => exact absurd rfl hc
  · exact .sign hc

theorem ne_bracket_of_isPlain (hc : isPlain c = true) : c ≠ '[' := by
  rintro rfl
  cases hc

/-- The signs of a name hold no bracket. -/
theorem opens_dropWhile_iff :
    Opens (rest.dropWhile isPlain) inner closed ↔ Opens rest inner closed := by
  induction rest with
  | nil => rfl
  | cons c rest ih =>
    by_cases hc : isPlain c = true
    · rw [List.dropWhile_cons_of_pos hc, opens_sign_iff (ne_bracket_of_isPlain hc), ih]
    · rw [List.dropWhile_cons_of_neg hc]

/-- Up to the first closing bracket there is one way to read a text. -/
theorem closing_unique {text : List Char} (hinner : ']' ∉ inner) (hfirst : ']' ∉ first)
    (heq : inner ++ ']' :: rest = first ++ ']' :: text) : inner = first ∧ rest = text := by
  have hsame : inner = first := by
    rw [← (takeWhile_closing hinner rest).1, heq, (takeWhile_closing hfirst text).1]
  rw [hsame] at heq
  exact ⟨hsame, (List.cons.inj (List.append_cancel_left heq)).2⟩

theorem opens_closed_iff (hfirst : ']' ∉ first) :
    Opens ('[' :: (first ++ ']' :: rest)) inner closed ↔
      inner = first ∧ closed = true ∨ Opens rest inner closed := by
  constructor
  · intro h
    generalize hpath : '[' :: (first ++ ']' :: rest) = path at h
    cases h with
    | closed hinner =>
      have hsame := (List.cons.inj hpath).2
      exact .inl ⟨(closing_unique hfirst hinner hsame).1.symm, rfl⟩
    | leftOpen hinner =>
      -- the content would hold the closing bracket
      have hsame := (List.cons.inj hpath).2
      exact absurd (hsame ▸ List.mem_append_right first List.mem_cons_self) hinner
    | sign hc _ => exact absurd (List.cons.inj hpath).1.symm hc
    | behind hother hrest =>
      have hsame := (List.cons.inj hpath).2
      exact .inr ((closing_unique hfirst hother hsame).2 ▸ hrest)
  · rintro (⟨rfl, rfl⟩ | hrest)
    · exact .closed hfirst
    · exact .behind hfirst hrest

theorem opens_leftOpen_iff (hfirst : ']' ∉ first) :
    Opens ('[' :: first) inner closed ↔ inner = first ∧ closed = false := by
  constructor
  · intro h
    cases h with
    | closed _ => exact absurd (List.mem_append_right _ List.mem_cons_self) hfirst
    | leftOpen _ => exact ⟨rfl, rfl⟩
    | sign hc _ => exact absurd rfl hc
    | behind _ _ => exact absurd (List.mem_append_right _ List.mem_cons_self) hfirst
  · rintro ⟨rfl, rfl⟩
    exact .leftOpen hfirst

/-! ## What may stand in brackets -/

/-- A name between two quotes of one kind. -/
def IsQuoted (content : List Char) : Prop :=
  ∃ quote name, (quote = '\'' ∨ quote = '"') ∧ content = quote :: (name ++ [quote])

/-- Decimal digits of a number below `2 ^ 64`, with zeros in front or without. -/
def AreDigits (digits : List Char) : Prop :=
  digits ≠ [] ∧ (∀ c ∈ digits, c.isDigit = true)
    ∧ Nat.ofDigitChars 10 digits 0 < 0x10000000000000000

/-- Such digits, behind a plus sign or without one. -/
def IsNumber (content : List Char) : Prop :=
  ∃ digits, (content = digits ∨ content = '+' :: digits) ∧ AreDigits digits

/-- The content of a bracket is one of them, with blanks around it or without. -/
def IsSegment (inner : List Char) : Prop :=
  IsQuoted (Text.trim inner) ∨ IsNumber (Text.trim inner)

/-- They are taken for an index as long as it is below the limit. -/
theorem exists_index_of_digits_iff {digits : List Char} :
    (∃ i, (natural? digits).filter (· < 0x10000000000000000) = some i) ↔ AreDigits digits := by
  unfold AreDigits
  simp only [Option.filter_eq_some_iff, natural?_eq_some_iff, decide_eq_true_eq]
  constructor
  · rintro ⟨i, ⟨hne, hdigits, rfl⟩, hless⟩
    exact ⟨hne, hdigits, hless⟩
  · rintro ⟨hne, hdigits, hless⟩
    exact ⟨_, ⟨hne, hdigits, rfl⟩, hless⟩

theorem exists_index?_iff : (∃ i, index? content = some i) ↔ IsNumber content := by
  unfold index?
  dsimp only
  rw [exists_index_of_digits_iff]
  by_cases hplus : content.head? = some '+'
  · obtain ⟨digits, rfl⟩ := List.head?_eq_some_iff.1 hplus
    rw [if_pos hplus, List.tail_cons]
    constructor
    · intro h
      exact ⟨digits, .inr rfl, h⟩
    · rintro ⟨other, heq | heq, hnumber⟩
      · -- the sign is none of the digits
        have hsign : '+' ∈ other := heq ▸ List.mem_cons_self
        cases hnumber.2.1 _ hsign
      · cases heq
        exact hnumber
  · rw [if_neg hplus]
    constructor
    · intro h
      exact ⟨content, .inl rfl, h⟩
    · rintro ⟨digits, rfl | rfl, hnumber⟩
      · exact hnumber
      · exact absurd rfl hplus

/-- The one kind of quotes is tried after the other. -/
theorem exists_unquote_iff :
    (∃ name, (unquote? '\'' content <|> unquote? '"' content) = some name) ↔ IsQuoted content := by
  constructor
  · rintro ⟨name, hname⟩
    cases hsingle : unquote? '\'' content with
    | some other => exact ⟨'\'', other, .inl rfl, unquote?_eq_some_iff.1 hsingle⟩
    | none =>
      rw [hsingle] at hname
      exact ⟨'"', name, .inr rfl, unquote?_eq_some_iff.1 hname⟩
  · rintro ⟨quote, name, rfl | rfl, heq⟩
    · rw [unquote?_eq_some_iff.2 heq]
      exact ⟨name, rfl⟩
    · rw [unquote?_eq_some_iff.2 heq]
      cases unquote? '\'' content with
      | some other => exact ⟨other, rfl⟩
      | none => exact ⟨name, rfl⟩

/-- **The content of a bracket is a step exactly if it is a name in quotes or a number.** -/
theorem exists_bracketStep_iff : (∃ step, bracketStep inner = .ok step) ↔ IsSegment inner := by
  unfold IsSegment bracketStep
  rw [← exists_unquote_iff, ← exists_index?_iff]
  dsimp only
  split
  · next name hname => exact iff_of_true ⟨_, rfl⟩ (.inl ⟨name, hname⟩)
  · next hnone =>
    rw [hnone]
    split
    · next i hi => exact iff_of_true ⟨_, rfl⟩ (.inr ⟨i, hi⟩)
    · next hno =>
      rw [hno]
      refine iff_of_false nofun ?_
      rintro (⟨_, h⟩ | ⟨_, h⟩) <;> cases h

/-- Otherwise it is named in the error, without its outer blanks. -/
theorem bracketStep_eq_error (h : bracketStep inner = .error e) :
    e = .invalidSegment (String.ofList (Text.trim inner)) := by
  unfold bracketStep at h
  dsimp only at h
  split at h
  · cases h
  · split at h
    · cases h
    · cases h
      rfl

/-! ## Whole paths -/

/-- A text goes on without a closing bracket, or up to the first one and on. -/
theorem closing_cases (rest : List Char) :
    ']' ∉ rest ∨ ∃ first more, ']' ∉ first ∧ rest = first ++ ']' :: more := by
  by_cases hclosing : ']' ∈ rest
  · obtain ⟨first, more, rfl, hfirst⟩ := List.eq_append_cons_of_mem hclosing
    exact .inr ⟨first, more, hfirst, rfl⟩
  · exact .inl hclosing

/-- **Induction on a path**, by what stands at its front: a point, a name, or a segment in brackets, which is
closed or left open. -/
theorem path_induction {P : List Char → Prop} (nil : P [])
    (point : ∀ rest, P rest → P ('.' :: rest))
    (name : ∀ c rest, isPlain c = true → P (rest.dropWhile isPlain) → P (c :: rest))
    (closed : ∀ first rest, ']' ∉ first → P rest → P ('[' :: (first ++ ']' :: rest)))
    (leftOpen : ∀ first, ']' ∉ first → P ('[' :: first)) (path : List Char) : P path := by
  induction path using Path.steps.induct with
  | case1 => exact nil
  | case2 rest ih => exact point rest ih
  | case3 rest _ ih =>
    -- the reader goes on behind the closing bracket, and there is none where it is left open
    rcases closing_cases rest with hrest | ⟨first, more, hfirst, rfl⟩
    · exact leftOpen rest hrest
    · rw [(takeWhile_closing hfirst more).2, List.drop_one, List.tail_cons] at ih
      exact closed first more hfirst ih
  | case4 c rest hpoint hbracket ih =>
    have hc : isPlain c = true := by simp [isPlain, hpoint, hbracket]
    exact name c rest hc ih

/-- **A segment that is left open is read as if it was closed.** -/
theorem steps_leftOpen (hfirst : ']' ∉ first) :
    Path.steps ('[' :: first) = Path.steps ('[' :: (first ++ [']'])) := by
  have hplain : ∀ c ∈ first, decide (c ≠ ']') = true := by
    intro c hc
    simpa using fun heq : c = ']' => hfirst (heq ▸ hc)
  have hnil : Path.steps [] = .ok [] := by rw [Path.steps]
  rw [steps_closed hfirst, hnil, Path.steps, List.takeWhile_eq_self_iff.2 hplain,
    List.dropWhile_eq_nil_iff.2 hplain]
  simp [hnil]

/-- **Where a path has steps, the contents of its brackets are.** Induction on the path. -/
theorem segments_of_steps {steps : List Step} (h : Path.steps path = .ok steps) :
    ∀ inner closed, Opens path inner closed → IsSegment inner := by
  intro inner closed hopens
  induction path using path_induction generalizing steps with
  | nil => exact absurd hopens not_opens_nil
  | point rest ih =>
    rw [steps_point] at h
    exact ih h ((opens_sign_iff (by decide)).1 hopens)
  | name c rest hc ih =>
    rw [steps_plain hc] at h
    obtain ⟨more, hmore, -⟩ := bind_eq_ok_iff.1 h
    exact ih hmore (opens_dropWhile_iff.2 ((opens_sign_iff (ne_bracket_of_isPlain hc)).1 hopens))
  | closed first rest hfirst ih =>
    rw [steps_closed hfirst] at h
    obtain ⟨step, hstep, h⟩ := bind_eq_ok_iff.1 h
    obtain ⟨more, hmore, -⟩ := bind_eq_ok_iff.1 h
    rcases (opens_closed_iff hfirst).1 hopens with ⟨rfl, -⟩ | hrest
    · exact exists_bracketStep_iff.1 ⟨step, hstep⟩
    · exact ih hmore hrest
  | leftOpen first hfirst =>
    rw [steps_leftOpen hfirst, steps_closed hfirst] at h
    obtain ⟨step, hstep, -⟩ := bind_eq_ok_iff.1 h
    obtain ⟨rfl, -⟩ := (opens_leftOpen_iff hfirst).1 hopens
    exact exists_bracketStep_iff.1 ⟨step, hstep⟩

/-- **Where it has none, the content of one of its brackets is to blame.** -/
theorem fault_of_steps (h : Path.steps path = .error e) : ∃ inner closed, Opens path inner closed
    ∧ ¬ IsSegment inner ∧ e = .invalidSegment (String.ofList (Text.trim inner)) := by
  have hcontent : ∀ {first}, bracketStep first = .error e →
      ¬ IsSegment first ∧ e = .invalidSegment (String.ofList (Text.trim first)) := by
    intro first herror
    refine ⟨fun hsegment => ?_, bracketStep_eq_error herror⟩
    obtain ⟨step, hstep⟩ := exists_bracketStep_iff.2 hsegment
    cases hstep.symm.trans herror
  induction path using path_induction with
  | nil =>
    rw [Path.steps] at h
    cases h
  | point rest ih =>
    rw [steps_point] at h
    obtain ⟨inner, closed, hopens, hfault⟩ := ih h
    exact ⟨inner, closed, .sign (by decide) hopens, hfault⟩
  | name c rest hc ih =>
    rw [steps_plain hc] at h
    rcases bind_eq_error_iff.1 h with h | ⟨_, _, h⟩
    · obtain ⟨inner, closed, hopens, hfault⟩ := ih h
      exact ⟨inner, closed, .sign (ne_bracket_of_isPlain hc) (opens_dropWhile_iff.1 hopens), hfault⟩
    · cases h
  | closed first rest hfirst ih =>
    rw [steps_closed hfirst] at h
    rcases bind_eq_error_iff.1 h with h | ⟨_, _, h⟩
    · exact ⟨first, true, .closed hfirst, hcontent h⟩
    rcases bind_eq_error_iff.1 h with h | ⟨_, _, h⟩
    · obtain ⟨inner, closed, hopens, hfault⟩ := ih h
      exact ⟨inner, closed, .behind hfirst hopens, hfault⟩
    · cases h
  | leftOpen first hfirst =>
    rw [steps_leftOpen hfirst, steps_closed hfirst] at h
    rcases bind_eq_error_iff.1 h with h | ⟨_, _, h⟩
    · exact ⟨first, false, .leftOpen hfirst, hcontent h⟩
    · rw [Path.steps] at h
      cases h

/-- **A path has steps exactly if the content of each of its brackets is one**, closed or not. -/
theorem exists_steps_iff : (∃ steps, Path.steps path = .ok steps) ↔
    ∀ inner closed, Opens path inner closed → IsSegment inner := by
  constructor
  · rintro ⟨steps, hsteps⟩
    exact segments_of_steps hsteps
  · intro hall
    cases hsteps : Path.steps path with
    | ok steps => exact ⟨steps, rfl⟩
    | error e =>
      obtain ⟨inner, closed, hopens, hno, -⟩ := fault_of_steps hsteps
      exact absurd (hall inner closed hopens) hno

/-- A name that ends within a text ends there, whatever follows the text. -/
theorem name_append (hends : rest.dropWhile isPlain ≠ []) (text : List Char) :
    (rest ++ text).takeWhile isPlain = rest.takeWhile isPlain
      ∧ (rest ++ text).dropWhile isPlain = rest.dropWhile isPlain ++ text := by
  have hlength : (rest.takeWhile isPlain).length + (rest.dropWhile isPlain).length = rest.length := by
    rw [← List.length_append, List.takeWhile_append_dropWhile]
  have hpos : 0 < (rest.dropWhile isPlain).length := List.length_pos_iff.2 hends
  have hshort : ¬ (rest.takeWhile isPlain).length = rest.length := by omega
  have hsome : ¬ (rest.dropWhile isPlain).isEmpty = true := by simpa using hends
  rw [List.takeWhile_append, if_neg hshort, List.dropWhile_append, if_neg hsome]
  exact ⟨rfl, rfl⟩

/-- Of a whole path the last segment can be left open, and is read as if it was closed. Induction on the
path. -/
theorem steps_of_leftOpen (h : Opens path inner false) :
    Path.steps path = Path.steps (path ++ [']']) := by
  induction path using path_induction with
  | nil => exact absurd h not_opens_nil
  | point rest ih =>
    rw [List.cons_append, steps_point, steps_point]
    exact ih ((opens_sign_iff (by decide)).1 h)
  | name c rest hc ih =>
    have hrest := opens_dropWhile_iff.2 ((opens_sign_iff (ne_bracket_of_isPlain hc)).1 h)
    have hends : rest.dropWhile isPlain ≠ [] := by
      intro hnil
      rw [hnil] at hrest
      exact not_opens_nil hrest
    obtain ⟨htake, hdrop⟩ := name_append hends [']']
    rw [List.cons_append, steps_plain hc, steps_plain hc, htake, hdrop, ih hrest]
  | closed first rest hfirst ih =>
    rcases (opens_closed_iff hfirst).1 h with ⟨-, hfalse⟩ | hrest
    · cases hfalse
    · rw [steps_closed hfirst, ih hrest, ← steps_closed hfirst, List.cons_append, List.append_assoc,
        List.cons_append]
  | leftOpen first hfirst => exact steps_leftOpen hfirst

/-! ## Malformed paths -/

/-- A segment of the path is left open, or its content is neither a name in quotes nor a number. -/
def IsMalformed (path : List Char) : Prop :=
  ∃ inner closed, Opens path inner closed ∧ (closed = false ∨ ¬ IsSegment inner)

/-- The path is judged by its brackets: if it is malformed, it is refused as an invalid segment, before any
document is looked at; and if not, it has steps. -/
structure JudgesBrackets (path : List Char) : Prop where
  malformed : IsMalformed path → ∃ text, Path.steps path = .error (.invalidSegment text)
    ∧ ∀ document full, withoutRoot full.toList = path →
      select document full = .error (.invalidSegment text)
  wellFormed : ¬ IsMalformed path → ∃ steps, Path.steps path = .ok steps

/-- A path that has no steps selects nothing. -/
theorem select_of_steps_error {document : Json} {full : String}
    (h : Path.steps (withoutRoot full.toList) = .error e) : select document full = .error e := by
  unfold select
  rw [h]
  rfl

/-- **Which paths are judged by their brackets.** A path has steps exactly if the contents of all of its
segments are steps, and a segment that is left open counts as if it was closed. So malformed brackets are
refused, unless the one thing that is wrong with them is that the last one is left open. -/
theorem judgesBrackets_iff (path : List Char) :
    ((∃ steps, Path.steps path = .ok steps) ↔
      ∀ inner closed, Opens path inner closed → IsSegment inner)
    ∧ (∀ inner, Opens path inner false → Path.steps path = Path.steps (path ++ [']']))
    ∧ (JudgesBrackets path ↔ ∀ inner, Opens path inner false →
        ∃ other closed, Opens path other closed ∧ ¬ IsSegment other) := by
  refine ⟨exists_steps_iff, fun inner hopen => steps_of_leftOpen hopen, ?_, ?_⟩
  · intro hjudges inner hopen
    by_contra hnone
    -- then all contents are steps, and the path is not refused
    have hall : ∀ other closed, Opens path other closed → IsSegment other := by
      intro other closed hopens
      by_contra hno
      exact hnone ⟨other, closed, hopens, hno⟩
    obtain ⟨steps, hsteps⟩ := exists_steps_iff.2 hall
    obtain ⟨text, herror, -⟩ := hjudges.malformed ⟨inner, false, hopen, .inl rfl⟩
    cases hsteps.symm.trans herror
  · intro hfault
    constructor
    · rintro ⟨inner, closed, hopens, hwrong⟩
      have hbad : ∃ other closed, Opens path other closed ∧ ¬ IsSegment other := by
        rcases hwrong with rfl | hno
        · exact hfault inner hopens
        · exact ⟨inner, closed, hopens, hno⟩
      obtain ⟨other, closed, hother, hno⟩ := hbad
      cases hsteps : Path.steps path with
      | ok steps => exact absurd (segments_of_steps hsteps other closed hother) hno
      | error e =>
        obtain ⟨blamed, _, -, -, rfl⟩ := fault_of_steps hsteps
        refine ⟨_, rfl, ?_⟩
        rintro document full rfl
        exact select_of_steps_error hsteps
    · intro hwell
      refine exists_steps_iff.2 fun inner closed hopens => ?_
      by_contra hno
      exact hwell ⟨inner, closed, hopens, .inr hno⟩

/-- A number can have a sign, zeros in front and blanks around it. And a path that is left open is refused
when another of its contents is no step. -/
theorem judgesBrackets_signed :
    (∀ inner closed, Opens "[ +07 ]".toList inner closed → IsSegment inner)
    ∧ (∃ steps, Path.steps "[ +07 ]".toList = .ok steps)
    ∧ Opens "[x][0".toList "0".toList false
    ∧ Path.steps "[x][0".toList = Path.steps ("[x][0".toList ++ [']'])
    ∧ (∀ inner, Opens "[x][0".toList inner false →
        ∃ other closed, Opens "[x][0".toList other closed ∧ ¬ IsSegment other)
    ∧ JudgesBrackets "[x][0".toList := by
  have hsigned : ∀ inner closed, Opens "[ +07 ]".toList inner closed → IsSegment inner := by
    intro inner closed hopens
    have hfirst : ']' ∉ " +07 ".toList := by decide
    rcases (@opens_closed_iff [] " +07 ".toList inner closed hfirst).1 hopens with ⟨rfl, -⟩ | hnil
    · exact exists_bracketStep_iff.1 ⟨.index 7, by decide⟩
    · exact absurd hnil not_opens_nil
  have hopen : Opens "[x][0".toList "0".toList false :=
    @Opens.behind ['x'] _ _ _ (by decide) (.leftOpen (by decide))
  have hclosed : Opens "[x][0".toList ['x'] true := @Opens.closed ['x'] "[0".toList (by decide)
  have hmisfit : ¬ IsSegment ['x'] := by
    intro hsegment
    obtain ⟨step, hstep⟩ := exists_bracketStep_iff.2 hsegment
    cases hstep.symm.trans (show bracketStep ['x'] = .error (.invalidSegment "x") by decide)
  have hfault : ∀ inner, Opens "[x][0".toList inner false →
      ∃ other closed, Opens "[x][0".toList other closed ∧ ¬ IsSegment other :=
    fun _ _ => ⟨['x'], true, hclosed, hmisfit⟩
  exact ⟨hsigned, (judgesBrackets_iff _).1.2 hsigned, hopen, (judgesBrackets_iff _).2.1 _ hopen, hfault,
    (judgesBrackets_iff _).2.2.2 hfault⟩

/-- **A path that ends within an index is followed**, although its last segment is left open. -/
theorem not_judgesBrackets_unfinished :
    IsMalformed ".items[0".toList
    ∧ select (.object [("items", .array [.bool true])]) "$.items[0" = .ok (.bool true)
    ∧ ¬ JudgesBrackets ".items[0".toList := by
  have hopen : Opens ".items[0".toList "0".toList false :=
    .sign (by decide) (.sign (by decide) (.sign (by decide) (.sign (by decide) (.sign (by decide)
      (.sign (by decide) (.leftOpen (by decide)))))))
  have hmalformed : IsMalformed ".items[0".toList := ⟨_, false, hopen, .inl rfl⟩
  have hsteps : Path.steps ".items[0".toList = .ok [.field "items", .index 0] := by decide +kernel
  refine ⟨hmalformed, ?_, fun hjudges => ?_⟩
  · unfold select
    rw [show withoutRoot "$.items[0".toList = ".items[0".toList by decide +kernel, hsteps]
    rfl
  · obtain ⟨text, herror, -⟩ := hjudges.malformed hmalformed
    cases hsteps.symm.trans herror

end RestSuite.Json.Path
