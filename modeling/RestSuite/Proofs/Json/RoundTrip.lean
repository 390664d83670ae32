import RestSuite.Json.Parser
import RestSuite.Json.Printer
import RestSuite.Proofs.Sequencing

/-!
# The compact text of a value is read back

A value without floats that nests no deeper than the reader allows is read back from its compact text,
member by member and in the same order. The reader works on what follows as well, so every part of a
text is said to be read back in front of any other text that may follow it.

* **`Json.Integral`** — no number in the value is a float.
* **`Json.RoundTrips`** — the value is read back in front of whatever may follow it.
* **`Json.readString_escaped`** — a character is read back from the way in which it stands between
  quotes.
* **`Json.readNumber_decimal`** — a natural number of 64 bits is read back from its digits.
* **`Json.roundTrips`** — a value is read back if its parts are.
* **`Json.parse_text`** — so the text of a value spells that value.
-/

namespace RestSuite

/-- The number is an integer. -/
def Number.IsInteger : Number → Prop
  | .integer _ _ => True
  | .real _ => False

namespace Json

open Text (Symbol)

/-! ## Values without floats -/

mutual

/-- All numbers in the value are integers. -/
def Integral : Json → Prop
  | .number n => n.IsInteger
  | .array items => IntegralItems items
  | .object members => IntegralMembers members
  | _ => True

/-- `Integral` of every item. -/
def IntegralItems : List Json → Prop
  | [] => True
  | item :: rest => Integral item ∧ IntegralItems rest

/-- `Integral` of every member's value. -/
def IntegralMembers : List (String × Json) → Prop
  | [] => True
  | (_, value) :: rest => Integral value ∧ IntegralMembers rest

end

/-! ## Strings -/

variable {rest left : List Symbol} {done : List Char} {fuel depth : Nat}

theorem readString_escape {d : Char} {shorter : left.length < rest.length}
    (h : readEscape rest = .ok ⟨(d, left), shorter⟩) :
    readString done none (.char '\\' :: rest) = readString (d :: done) none left := by
  rw [readString]
  simp [h]

theorem readString_shortEscape {c d : Char} (hu : c ≠ 'u') (h : shortEscape? c = some d)
    (rest : List Symbol) :
    readString done none (.char '\\' :: .char c :: rest) = readString (d :: done) none rest := by
  have hread : readEscape (.char c :: rest) = .ok ⟨(d, rest), by simp⟩ := by
    unfold readEscape
    simp [hu, h]
  exact readString_escape hread

theorem hexValue?_hexDigit {n : Nat} (h : n < 16) : hexValue? (.char (hexDigit n)) = some n := by
  revert n
  decide

/-- A character stands between quotes behind a backslash, by its number if it is another control
character, or as it is. -/
theorem escaped_cases (c : Char) :
    (∃ e, escaped c = ['\\', e] ∧ e ≠ 'u' ∧ shortEscape? e = some c)
    ∨ (c.toNat < 0x20 ∧ escaped c =
        ['\\', 'u', '0', '0', hexDigit (c.toNat / 16), hexDigit (c.toNat % 16)])
    ∨ (c ≠ '"' ∧ c ≠ '\\' ∧ ¬ c.toNat < 0x20 ∧ escaped c = [c]) := by
  unfold escaped
  split_ifs with hquote hbackslash hnewline hreturn htab hbackspace hfeed hcontrol
  case neg => exact .inr (.inr ⟨hquote, hbackslash, hcontrol, rfl⟩)
  all_goals first
    | exact .inr (.inl ⟨hcontrol, rfl⟩)
    | exact .inl ⟨_, rfl, by decide, by simp only [*]; rfl⟩

/-- Four digits are read. -/
theorem readFourHex_eq {n : Nat} {input : List Symbol} (hsize : 4 ≤ Symbol.sizeOfAll (input.take 4))
    (h : fourHex? input = some (n, rest)) :
    readFourHex input = .ok ⟨(n, rest), length_lt_of_fourHex? h⟩ := by
  unfold readFourHex
  rw [if_neg (by omega)]
  split
  · next r heq =>
    cases h.symm.trans heq
    rfl
  · next heq => cases h.symm.trans heq

/-- A control character is read back from its four digits. -/
theorem readEscape_control {c : Char} (h : c.toNat < 0x20) (rest : List Symbol) :
    ∃ shorter, readEscape (.char 'u' :: .char '0' :: .char '0' :: .char (hexDigit (c.toNat / 16)) ::
      .char (hexDigit (c.toNat % 16)) :: rest) = .ok ⟨(c, rest), shorter⟩ := by
  have hfour : fourHex? (.char '0' :: .char '0' :: .char (hexDigit (c.toNat / 16)) ::
      .char (hexDigit (c.toNat % 16)) :: rest) = some (c.toNat, rest) := by
    have hzero : hexValue? (.char '0') = some 0 := by decide
    have hcode : ((0 * 16 + 0) * 16 + c.toNat / 16) * 16 + c.toNat % 16 = c.toNat := by omega
    simp only [fourHex?, hzero, hexValue?_hexDigit (show c.toNat / 16 < 16 by omega),
      hexValue?_hexDigit (show c.toNat % 16 < 16 by omega), Option.bind_eq_bind, Option.bind_some,
      hcode]
  have hsize : 4 ≤ Symbol.sizeOfAll (List.take 4 (.char '0' :: .char '0' ::
      .char (hexDigit (c.toNat / 16)) :: .char (hexDigit (c.toNat % 16)) :: rest)) := by
    have hhigh := (hexDigit (c.toNat / 16)).utf8Size_pos
    have hlow := (hexDigit (c.toNat % 16)).utf8Size_pos
    have hzero : Char.utf8Size '0' = 1 := by decide
    simp only [List.take_succ_cons, List.take_zero, Symbol.sizeOfAll, Symbol.size]
    omega
  refine ⟨by simp only [List.length_cons]; omega, ?_⟩
  unfold readEscape
  simp only [if_true, readFourHex_eq hsize hfour, ok_bind]
  rw [if_neg (by omega), if_neg (by omega)]
  simp only [Char.ofNat_toNat]

theorem readString_escaped (c : Char) (rest : List Symbol) :
    readString done none ((escaped c).map .char ++ rest) = readString (c :: done) none rest := by
  rcases escaped_cases c with
    ⟨e, heq, hu, he⟩ | ⟨hcontrol, heq⟩ | ⟨hquote, hbackslash, hcontrol, heq⟩
  · rw [heq]
    exact readString_shortEscape hu he rest
  · rw [heq]
    obtain ⟨_, hread⟩ := readEscape_control hcontrol rest
    exact readString_escape hread
  · rw [heq, List.map_singleton, List.singleton_append, readString, if_neg hquote,
      if_neg hbackslash, if_neg hcontrol]

/-- **A string is read back**, up to its closing quote. -/
theorem readString_chars (cs : List Char) (rest : List Symbol) :
    readString done none ((cs.flatMap escaped ++ ['"']).map .char ++ rest) =
      .ok (String.ofList (done.reverse ++ cs), rest) := by
  induction cs generalizing done with
  | nil =>
    rw [List.flatMap_nil, List.nil_append, List.map_singleton, List.singleton_append, readString,
      if_pos rfl, List.append_nil]
  | cons c cs ih =>
    rw [List.flatMap_cons, List.append_assoc, List.map_append, List.append_assoc,
      readString_escaped, ih, List.reverse_cons, List.append_assoc, List.singleton_append]

theorem readString_quoted (s : String) (rest : List Symbol) :
    readString [] none ((s.toList.flatMap escaped ++ ['"']).map .char ++ rest) = .ok (s, rest) := by
  rw [readString_chars, List.reverse_nil, List.nil_append, String.ofList_toList]

/-! ## Numbers -/

/-- A value ends here: nothing follows, or a comma or a bracket does. -/
def Ends (rest : List Symbol) : Prop :=
  ∀ s ∈ rest.head?, s = .char ',' ∨ s = .char ']' ∨ s = .char '}'

/-- The value of a digit. -/
def digitValue (c : Char) : Nat :=
  c.toNat - '0'.toNat

theorem between_of_isDigit {c : Char} (h : c.isDigit = true) : '0' ≤ c ∧ c ≤ '9' := by
  rw [Char.isDigit, Bool.and_eq_true, decide_eq_true_eq, decide_eq_true_eq] at h
  exact h

theorem digit?_of_isDigit {c : Char} (h : c.isDigit = true) :
    digit? (.char c) = some (digitValue c) :=
  if_pos (between_of_isDigit h)

/-- Digits are taken up to what is no digit. -/
theorem takeDigits_append {cs : List Char} (hdigits : ∀ c ∈ cs, c.isDigit = true)
    (hrest : ∀ s ∈ rest.head?, digit? s = none) :
    takeDigits (cs.map .char ++ rest) = (cs.map digitValue, rest) := by
  induction cs with
  | nil =>
    cases rest with
    | nil => rfl
    | cons s rest => simp [takeDigits, hrest s rfl]
  | cons c cs ih =>
    obtain ⟨hc, hcs⟩ := List.forall_mem_cons.1 hdigits
    simp [takeDigits, digit?_of_isDigit hc, ih hcs]

theorem le_ofDigitChars (cs : List Char) (n : Nat) : n ≤ Nat.ofDigitChars 10 cs n := by
  induction cs generalizing n with
  | nil => exact Nat.le_refl n
  | cons c cs ih =>
    rw [Nat.ofDigitChars_cons]
    exact Nat.le_trans (by omega) (ih _)

/-- No digit is dropped where the whole number fits. -/
theorem accumulate_digits {cs : List Char} {n : Nat}
    (h : Nat.ofDigitChars 10 cs n < 0x10000000000000000) :
    accumulate n (cs.map digitValue) = (Nat.ofDigitChars 10 cs n, 0) := by
  induction cs generalizing n with
  | nil => rfl
  | cons c cs ih =>
    rw [Nat.ofDigitChars_cons, Nat.mul_comm 10 n] at h ⊢
    have hfits : n * 10 + digitValue c < 0x10000000000000000 :=
      Nat.lt_of_le_of_lt (le_ofDigitChars cs _) h
    rw [List.map_cons, accumulate, if_pos hfits]
    exact ih h

/-- Only zero begins with the digit zero. -/
theorem decimal_head {n : Nat} (h : 0 < n) : ∃ c cs, decimal n = c :: cs ∧ 0 < digitValue c := by
  unfold decimal
  induction n using Nat.strongRecOn with
  | ind n ih =>
    by_cases hsmall : n < 10
    · refine ⟨n.digitChar, [], Nat.toDigits_of_lt_base hsmall, ?_⟩
      clear ih
      revert h
      revert n
      decide
    · obtain ⟨c, cs, heq, hc⟩ := ih (n / 10) (by omega) (by omega)
      refine ⟨c, cs ++ [(n % 10).digitChar], ?_, hc⟩
      rw [Nat.toDigits_of_base_le (by omega) (by omega), heq, List.cons_append]

/-- A number has at least one digit, and its first one is no zero if there are more. -/
theorem digits_eq_cons (n : Nat) :
    ∃ d ds, (decimal n).map digitValue = d :: ds ∧ (d = 0 → ds = []) := by
  rcases Nat.eq_zero_or_pos n with rfl | hpos
  · exact ⟨0, [], by decide, fun _ => rfl⟩
  · obtain ⟨c, cs, heq, hc⟩ := decimal_head hpos
    exact ⟨digitValue c, cs.map digitValue, by rw [heq, List.map_cons], fun h => by omega⟩

theorem isDigit_of_mem_decimal {n : Nat} {c : Char} (h : c ∈ decimal n) : c.isDigit = true :=
  Nat.isDigit_of_mem_toDigits (by omega) (by omega) h

/-- **A number of 64 bits is read back from its digits.** -/
theorem readNumber_decimal {n : Nat} (hn : n < 0x10000000000000000) (negative : Bool)
    (hrest : Ends rest) :
    readNumber negative ((decimal n).map .char ++ rest) = .ok (integerNumber negative n, rest) := by
  have hstop : ∀ s ∈ rest.head?, digit? s = none := by
    intro s hs
    rcases hrest s hs with rfl | rfl | rfl <;> decide
  have htake := takeDigits_append (fun c hc => isDigit_of_mem_decimal (n := n) hc) hstop
  have hvalue : accumulate 0 ((decimal n).map digitValue) = (n, 0) := by
    have hread : Nat.ofDigitChars 10 (decimal n) 0 = n :=
      Nat.ofDigitChars_toDigits (by omega) (by omega)
    rw [accumulate_digits (by rw [hread]; exact hn), hread]
  obtain ⟨d, ds, heq, hzero⟩ := digits_eq_cons n
  rw [heq] at htake hvalue
  unfold readNumber
  simp only [htake]
  split
  · next h => cases h
  · next h => cases h
  · next h =>
    -- no second digit follows a zero
    cases h
    cases hzero rfl
  · next whole left _ _ _ h =>
    -- what follows makes neither a fraction nor an exponent of it
    cases h
    simp only [hvalue]
    cases rest with
    | nil => rfl
    | cons s rest => rcases hrest s rfl with rfl | rfl | rfl <;> rfl

/-! ## Where a value begins and ends -/

/-- Neither a blank nor a closing bracket stands at the front. -/
def Starts (input : List Symbol) : Prop :=
  ∃ s rest, input = s :: rest ∧ isGap s = false ∧ s ≠ .char ']'

theorem skipGaps_cons {s : Symbol} (h : isGap s = false) (rest : List Symbol) :
    skipGaps (s :: rest) = s :: rest :=
  List.dropWhile_cons_of_neg (by simp [h])

theorem ne_of_isDigit {c d : Char} (h : c.isDigit = true) (hd : d.isDigit = false) : c ≠ d := by
  rintro rfl
  cases h.symm.trans hd

theorem isGap_of_isDigit {c : Char} (h : c.isDigit = true) : isGap (.char c) = false := by
  simp [isGap, ne_of_isDigit h]

theorem decimal_eq_cons (n : Nat) : ∃ c cs, decimal n = c :: cs ∧ c.isDigit = true := by
  obtain ⟨c, cs, heq⟩ := List.exists_cons_of_ne_nil (Nat.toDigits_ne_nil (n := n) (b := 10))
  have hmem : c ∈ decimal n := by
    rw [decimal, heq]
    exact List.mem_cons_self
  exact ⟨c, cs, heq, isDigit_of_mem_decimal hmem⟩

theorem compact_eq_cons {v : Json} (h : v.Integral) :
    ∃ c cs, v.compact = c :: cs ∧ isGap (.char c) = false ∧ c ≠ ']' := by
  cases v with
  | null => exact ⟨_, _, rfl, by decide, by decide⟩
  | bool b => cases b <;> exact ⟨_, _, rfl, by decide, by decide⟩
  | number n =>
    match n, h with
    | .integer (.ofNat n) _, _ =>
      obtain ⟨c, cs, heq, hc⟩ := decimal_eq_cons n
      exact ⟨c, cs, heq, isGap_of_isDigit hc, ne_of_isDigit hc (by decide)⟩
    | .integer (.negSucc n) _, _ => exact ⟨_, _, rfl, by decide, by decide⟩
  | string s => exact ⟨_, _, rfl, by decide, by decide⟩
  | array items => cases items <;> exact ⟨_, _, rfl, by decide, by decide⟩
  | object members => cases members <;> exact ⟨_, _, rfl, by decide, by decide⟩

theorem starts_compact {v : Json} (h : v.Integral) (rest : List Symbol) :
    Starts (v.compact.map .char ++ rest) := by
  obtain ⟨c, cs, heq, hgap, hbracket⟩ := compact_eq_cons h
  exact ⟨.char c, cs.map .char ++ rest, by rw [heq]; rfl, hgap, by simpa using hbracket⟩

theorem ends_compactItems (items : List Json) (rest : List Symbol) :
    Ends ((compactItems items).map .char ++ rest) := by
  intro s hs
  cases items <;> cases hs
  · exact .inr (.inl rfl)
  · exact .inl rfl

theorem ends_compactMembers (members : List (String × Json)) (rest : List Symbol) :
    Ends ((compactMembers members).map .char ++ rest) := by
  intro s hs
  rcases members with _ | ⟨⟨name, value⟩, more⟩ <;> cases hs
  · exact .inr (.inr rfl)
  · exact .inl rfl

theorem length_compact_pos {v : Json} (h : v.Integral) : 0 < v.compact.length := by
  obtain ⟨c, cs, heq, -⟩ := compact_eq_cons h
  rw [heq]
  exact Nat.succ_pos _

theorem length_compactItems_pos (items : List Json) : 0 < (compactItems items).length := by
  cases items <;> exact Nat.succ_pos _

theorem length_compactMembers_pos (members : List (String × Json)) :
    0 < (compactMembers members).length := by
  rcases members with _ | ⟨⟨name, value⟩, more⟩ <;> exact Nat.succ_pos _

/-! ## Values -/

/-- The value is read back in front of whatever may follow it. The length of its text is fuel enough. -/
def RoundTrips (v : Json) : Prop :=
  ∀ ⦃fuel depth rest⦄, v.depth ≤ depth → v.compact.length ≤ fuel → Ends rest →
    readValue fuel depth (v.compact.map .char ++ rest) = .ok (v, rest)

/-- Items behind the first one are read back, with the closing bracket. -/
def ItemsRoundTrip (items : List Json) : Prop :=
  ∀ ⦃fuel depth rest⦄, depthItems items ≤ depth → (compactItems items).length ≤ fuel →
    readItems fuel depth false ((compactItems items).map .char ++ rest) = .ok (items, rest)

/-- Members behind the first one are read back, with the closing brace. -/
def MembersRoundTrip (members : List (String × Json)) : Prop :=
  ∀ ⦃fuel depth rest⦄, depthMembers members ≤ depth → (compactMembers members).length ≤ fuel →
    readMembers fuel depth false ((compactMembers members).map .char ++ rest) = .ok (members, rest)

/-! ### Leaves -/

theorem readValue_minus (fuel depth : Nat) (rest : List Symbol) :
    readValue (fuel + 1) depth (.char '-' :: rest) =
      (readNumber true rest).map fun r => (.number r.1, r.2) := by
  rw [readValue, skipGaps_cons (by decide)]
  rfl

theorem readValue_digit {c : Char} (h : c.isDigit = true) (fuel depth : Nat) (rest : List Symbol) :
    readValue (fuel + 1) depth (.char c :: rest) =
      (readNumber false (.char c :: rest)).map fun r => (.number r.1, r.2) := by
  rw [readValue, skipGaps_cons (isGap_of_isDigit h)]
  dsimp only
  rw [if_neg (ne_of_isDigit h (by decide)), if_neg (ne_of_isDigit h (by decide)),
    if_neg (ne_of_isDigit h (by decide)), if_neg (ne_of_isDigit h (by decide)),
    if_pos (between_of_isDigit h)]
  rfl

theorem readValue_quote (fuel depth : Nat) (rest : List Symbol) :
    readValue (fuel + 1) depth (.char '"' :: rest) =
      (readString [] none rest).map fun r => (.string r.1, r.2) := by
  rw [readValue, skipGaps_cons (by decide)]
  rfl

/-- A value without parts is read back in one call, at any depth. -/
theorem roundTrips_of_leaf {v : Json} (hv : v.Integral)
    (h : ∀ fuel depth rest, Ends rest →
      readValue (fuel + 1) depth (v.compact.map .char ++ rest) = .ok (v, rest)) : v.RoundTrips := by
  intro fuel depth rest _ hfuel hrest
  cases fuel with
  | zero => exact absurd hfuel (Nat.not_le.2 (length_compact_pos hv))
  | succ fuel => exact h fuel depth rest hrest

theorem roundTrips_null : RoundTrips .null := by
  refine roundTrips_of_leaf trivial fun fuel depth rest _ => ?_
  rw [compact, readValue, List.map_cons, List.cons_append, skipGaps_cons (by decide)]
  rfl

theorem roundTrips_bool (b : Bool) : RoundTrips (.bool b) := by
  refine roundTrips_of_leaf trivial fun fuel depth rest _ => ?_
  cases b with
  | false =>
    rw [compact, readValue, List.map_cons, List.cons_append, skipGaps_cons (by decide)]
    rfl
  | true =>
    rw [compact, readValue, List.map_cons, List.cons_append, skipGaps_cons (by decide)]
    rfl

theorem roundTrips_number {n : Number} (h : n.IsInteger) : RoundTrips (.number n) := by
  refine roundTrips_of_leaf h fun fuel depth rest hrest => ?_
  match n, h with
  | .integer (.ofNat n) fits, _ =>
    have hn : n < 0x10000000000000000 := Int.ofNat_lt.1 fits.2
    obtain ⟨c, cs, heq, hc⟩ := decimal_eq_cons n
    have hread := readNumber_decimal hn false hrest
    rw [heq, List.map_cons, List.cons_append] at hread
    rw [compact, numberText, heq, List.map_cons, List.cons_append, readValue_digit hc, hread,
      integerNumber, if_neg (by decide), if_pos hn, Number.ofNat, dif_pos hn]
    rfl
  | .integer (.negSucc n) fits, _ =>
    have hn : n + 1 ≤ 0x8000000000000000 := by
      have hlow := fits.1
      omega
    rw [compact, numberText, List.map_cons, List.cons_append, readValue_minus,
      readNumber_decimal (by omega) true hrest, integerNumber, if_pos rfl,
      dif_pos ⟨Nat.succ_pos n, hn⟩]
    rfl

theorem quoted_append (s : String) (rest : List Symbol) :
    (quoted s).map .char ++ rest =
      .char '"' :: ((s.toList.flatMap escaped ++ ['"']).map .char ++ rest) := rfl

theorem roundTrips_string (s : String) : RoundTrips (.string s) := by
  refine roundTrips_of_leaf trivial fun fuel depth rest _ => ?_
  rw [compact, quoted_append, readValue_quote, readString_quoted]
  rfl

/-! ### Arrays -/

theorem readValue_bracket (fuel depth : Nat) (rest : List Symbol) :
    readValue (fuel + 1) (depth + 1) (.char '[' :: rest) =
      (readItems fuel depth true rest).map fun r => (.array r.1, r.2) := by
  rw [readValue, skipGaps_cons (by decide)]
  rfl

/-- Reads an item and the items behind it. -/
def readItem (fuel depth : Nat) (input : List Symbol) : Except Stop (List Json × List Symbol) := do
  let (item, left) ← readValue fuel depth input
  let (items, left) ← readItems fuel depth false left
  .ok (item :: items, left)

/-- The first item stands behind the opening bracket. -/
theorem readItems_start {input : List Symbol} (h : Starts input) (fuel depth : Nat) :
    readItems (fuel + 1) depth true input = readItem fuel depth input := by
  obtain ⟨s, rest, rfl, hgap, hbracket⟩ := h
  rw [readItems, skipGaps_cons hgap]
  dsimp only
  rw [if_neg hbracket, if_pos rfl]
  rfl

/-- Every other item stands behind a comma. -/
theorem readItems_comma {input : List Symbol} (h : Starts input) (fuel depth : Nat) :
    readItems (fuel + 1) depth false (.char ',' :: input) = readItem fuel depth input := by
  obtain ⟨s, rest, rfl, hgap, hbracket⟩ := h
  rw [readItems, skipGaps_cons (by decide)]
  dsimp only
  rw [if_neg (by decide), if_neg (by decide), if_pos rfl, skipGaps_cons hgap]
  dsimp only
  rw [if_neg hbracket]
  rfl

theorem readItem_compact {item : Json} {items : List Json} (hitem : item.RoundTrips)
    (hitems : ItemsRoundTrip items) (hdepth : depthItems (item :: items) ≤ depth)
    (hlength : item.compact.length ≤ fuel) (hmore : (compactItems items).length ≤ fuel)
    (rest : List Symbol) :
    readItem fuel depth (item.compact.map .char ++ ((compactItems items).map .char ++ rest)) =
      .ok (item :: items, rest) := by
  obtain ⟨hfirst, hothers⟩ := Nat.max_le.1 hdepth
  rw [readItem, hitem hfirst hlength (ends_compactItems items rest), ok_bind]
  dsimp only
  rw [hitems hothers hmore, ok_bind]

theorem itemsRoundTrip_nil : ItemsRoundTrip [] := by
  intro fuel depth rest _ hfuel
  cases fuel with
  | zero => cases hfuel
  | succ fuel =>
    rw [compactItems, List.map_singleton, List.singleton_append, readItems,
      skipGaps_cons (by decide)]
    rfl

theorem itemsRoundTrip_cons {item : Json} {items : List Json} (h : item.Integral)
    (hitem : item.RoundTrips) (hitems : ItemsRoundTrip items) : ItemsRoundTrip (item :: items) := by
  intro fuel depth rest hdepth hfuel
  -- the comma pays for the call, so the fuel is enough for the item and for those behind it
  rw [compactItems, List.length_append, List.length_cons] at hfuel
  cases fuel with
  | zero => omega
  | succ fuel =>
    have hpos := length_compactItems_pos items
    rw [compactItems, List.map_append, List.map_cons, List.append_assoc, List.cons_append,
      readItems_comma (starts_compact h _),
      readItem_compact hitem hitems hdepth (by omega) (by omega)]

theorem roundTrips_array_nil : RoundTrips (.array []) := by
  intro fuel depth rest hdepth hfuel _
  match fuel, depth with
  | fuel + 2, depth + 1 =>
    rw [compact, List.map_cons, List.cons_append, readValue_bracket, readItems,
      List.map_singleton, List.singleton_append, skipGaps_cons (by decide)]
    rfl

theorem roundTrips_array_cons {item : Json} {items : List Json} (h : item.Integral)
    (hitem : item.RoundTrips) (hitems : ItemsRoundTrip items) :
    RoundTrips (.array (item :: items)) := by
  intro fuel depth rest hdepth hfuel _
  have hpos := length_compact_pos h
  have hmore := length_compactItems_pos items
  rw [compact, List.length_append, List.length_cons] at hfuel
  match fuel, depth with
  | 0, _ | 1, _ => omega
  | _, 0 => cases hdepth
  | fuel + 2, depth + 1 =>
    rw [compact, List.map_append, List.map_cons, List.append_assoc, List.cons_append,
      readValue_bracket, readItems_start (starts_compact h _),
      readItem_compact hitem hitems (Nat.le_of_succ_le_succ hdepth) (by omega) (by omega)]
    rfl

/-! ### Objects -/

theorem readValue_brace (fuel depth : Nat) (rest : List Symbol) :
    readValue (fuel + 1) (depth + 1) (.char '{' :: rest) =
      (readMembers fuel depth true rest).map fun r => (.object (collect r.1), r.2) := by
  rw [readValue, skipGaps_cons (by decide)]
  rfl

theorem readMembers_start (fuel depth : Nat) (rest : List Symbol) :
    readMembers (fuel + 1) depth true (.char '"' :: rest) = readMember fuel depth rest := by
  rw [readMembers, skipGaps_cons (by decide)]
  rfl

theorem readMembers_comma (fuel depth : Nat) (rest : List Symbol) :
    readMembers (fuel + 1) depth false (.char ',' :: .char '"' :: rest) =
      readMember fuel depth rest := by
  rw [readMembers, skipGaps_cons (by decide)]
  dsimp only
  rw [if_neg (by decide), if_neg (by decide), if_pos rfl, skipGaps_cons (by decide)]
  rfl

/-- A member whose opening quote was read is read back, with the members behind it. -/
theorem readMember_compact {value : Json} {members : List (String × Json)} (name : String)
    (hvalue : value.RoundTrips) (hmembers : MembersRoundTrip members)
    (hdepth : depthMembers ((name, value) :: members) ≤ depth)
    (hlength : value.compact.length ≤ fuel) (hmore : (compactMembers members).length ≤ fuel)
    (rest : List Symbol) :
    readMember (fuel + 1) depth ((name.toList.flatMap escaped ++ ['"']).map .char ++
      .char ':' :: (value.compact.map .char ++ ((compactMembers members).map .char ++ rest))) =
      .ok ((name, value) :: members, rest) := by
  obtain ⟨hfirst, hothers⟩ := Nat.max_le.1 hdepth
  rw [readMember, readString_quoted, ok_bind]
  dsimp only
  rw [skipGaps_cons (by decide)]
  dsimp only
  rw [if_pos rfl, hvalue hfirst hlength (ends_compactMembers members rest), ok_bind]
  dsimp only
  rw [hmembers hothers hmore, ok_bind]

theorem membersRoundTrip_nil : MembersRoundTrip [] := by
  intro fuel depth rest _ hfuel
  cases fuel with
  | zero => cases hfuel
  | succ fuel =>
    rw [compactMembers, List.map_singleton, List.singleton_append, readMembers,
      skipGaps_cons (by decide)]
    rfl

theorem membersRoundTrip_cons {value : Json} {members : List (String × Json)} (name : String)
    (h : value.Integral) (hvalue : value.RoundTrips) (hmembers : MembersRoundTrip members) :
    MembersRoundTrip ((name, value) :: members) := by
  intro fuel depth rest hdepth hfuel
  have hpos := length_compact_pos h
  have hmore := length_compactMembers_pos members
  simp only [compactMembers, quoted, List.length_append, List.length_cons] at hfuel
  match fuel with
  | 0 | 1 => omega
  | fuel + 2 =>
    have hread := readMember_compact name hvalue hmembers hdepth
      (by omega : value.compact.length ≤ fuel) (by omega) rest
    simp only [compactMembers, quoted, List.map_append, List.map_cons, List.cons_append,
      List.append_assoc] at hread ⊢
    rw [readMembers_comma]
    exact hread

/-- Members without a name that comes again are kept as they were read. -/
theorem collect_of_distinct {members : List (String × Json)} (h : OrderedMap.Distinct members) :
    collect members = members := by
  have hmore : ∀ done : List (String × Json), OrderedMap.Distinct (done ++ members) →
      members.foldl (fun m entry => OrderedMap.put m entry.1 entry.2) done = done ++ members := by
    clear h
    induction members with
    | nil => exact fun done _ => (List.append_nil done).symm
    | cons entry rest ih =>
      intro done hdone
      have hnew : entry.1 ∉ OrderedMap.keys done := by
        unfold OrderedMap.Distinct OrderedMap.keys at hdone
        rw [List.map_append, List.map_cons, List.nodup_append] at hdone
        exact fun hmem => hdone.2.2 _ hmem _ List.mem_cons_self rfl
      have hstep := ih (done ++ [entry]) (by rwa [List.append_assoc])
      rw [List.foldl_cons, OrderedMap.put_of_not_mem hnew, hstep, List.append_assoc]
      rfl
  exact hmore [] h

theorem roundTrips_object_nil : RoundTrips (.object []) := by
  intro fuel depth rest hdepth hfuel _
  match fuel, depth with
  | fuel + 2, depth + 1 =>
    rw [compact, List.map_cons, List.cons_append, readValue_brace, readMembers,
      List.map_singleton, List.singleton_append, skipGaps_cons (by decide)]
    rfl

theorem roundTrips_object_cons {value : Json} {members : List (String × Json)} (name : String)
    (h : value.Integral) (hdistinct : OrderedMap.Distinct ((name, value) :: members))
    (hvalue : value.RoundTrips) (hmembers : MembersRoundTrip members) :
    RoundTrips (.object ((name, value) :: members)) := by
  intro fuel depth rest hdepth hfuel _
  have hpos := length_compact_pos h
  have hmore := length_compactMembers_pos members
  simp only [compact, quoted, List.length_append, List.length_cons] at hfuel
  match fuel, depth with
  | 0, _ | 1, _ | 2, _ => omega
  | _, 0 => cases hdepth
  | fuel + 3, depth + 1 =>
    have hread := readMember_compact name hvalue hmembers (Nat.le_of_succ_le_succ hdepth)
      (by omega : value.compact.length ≤ fuel) (by omega) rest
    simp only [compact, quoted, List.map_append, List.map_cons, List.cons_append,
      List.append_assoc] at hread ⊢
    rw [readValue_brace, readMembers_start, hread]
    simp only [Except.map, collect_of_distinct hdistinct]

/-! ### Whole values -/

mutual

/-- **A value without floats is read back from its compact text**, whatever may follow it. Induction on
the value: the text of a part is followed by the other parts and the closing sign. -/
theorem roundTrips : (v : Json) → v.Integral → v.Distinct → v.RoundTrips
  | .null, _, _ => roundTrips_null
  | .bool b, _, _ => roundTrips_bool b
  | .number _, h, _ => roundTrips_number h
  | .string s, _, _ => roundTrips_string s
  | .array [], _, _ => roundTrips_array_nil
  | .array (item :: items), h, hdistinct =>
    roundTrips_array_cons h.1 (roundTrips item h.1 hdistinct.1)
      (itemsRoundTrip items h.2 hdistinct.2)
  | .object [], _, _ => roundTrips_object_nil
  | .object ((name, value) :: members), h, hdistinct =>
    roundTrips_object_cons name h.1 hdistinct.1 (roundTrips value h.1 hdistinct.2.1)
      (membersRoundTrip members h.2 hdistinct.2.2)

theorem itemsRoundTrip : (items : List Json) → IntegralItems items → DistinctItems items →
    ItemsRoundTrip items
  | [], _, _ => itemsRoundTrip_nil
  | item :: items, h, hdistinct =>
    itemsRoundTrip_cons h.1 (roundTrips item h.1 hdistinct.1) (itemsRoundTrip items h.2 hdistinct.2)

theorem membersRoundTrip : (members : List (String × Json)) → IntegralMembers members →
    DistinctMembers members → MembersRoundTrip members
  | [], _, _ => membersRoundTrip_nil
  | (name, value) :: members, h, hdistinct =>
    membersRoundTrip_cons name h.1 (roundTrips value h.1 hdistinct.1)
      (membersRoundTrip members h.2 hdistinct.2)

end

/-- **The compact text of a value spells that value**, if the value has no float and no name twice and
nests no deeper than the reader allows. -/
theorem parse_text {v : Json} (hintegral : v.Integral) (hdistinct : v.Distinct)
    (hdepth : v.depth ≤ depthLimit) : Json.parse v.text = .ok v := by
  have hread : readValue (2 * (v.compact.map Symbol.char).length + 2) depthLimit
      (v.compact.map .char ++ []) = .ok (v, []) :=
    roundTrips v hintegral hdistinct hdepth (by rw [List.length_map]; omega) nofun
  rw [List.append_nil] at hread
  unfold Json.parse ofSymbols readDocument Symbol.ofString text
  rw [String.toList_ofList, hread, ok_bind]
  rfl

end Json

end RestSuite
