import RestSuite.Proofs.Behavior.Targets
import RestSuite.Proofs.Disk.Writing
import RestSuite.Proofs.Json.Leaves

/-!
# Bodies that are stored in files

An extractor whose target is a redirect writes the body to the file that the target names, and a later
text reads the file by the same redirect. The path of a redirect that is read loses its outer blanks
and is filled in; the path of one that is written is expanded, as any text is: its blanks stay, and if
it begins with the sign of a redirect once more, it stands for the content of another file. So there are
targets that are written at one place and read at another.

* **`Scope.writtenPath`**, **`Scope.readPath`** — where a redirect is written and where it is read.
* **`IsPlainPath`** — a path without outer blanks that is no redirect.
* **`writtenPath_eq_readPath_iff`** — the two places are the same in every scope exactly for such a path.
* **`ReadsBack`** — what is stored under a target is read under it.
* **`Extractor.readsBack_of_plain`** — what is stored under a redirect with a plain path.
-/

namespace RestSuite

/-! ## Texts with blanks around them -/

namespace Placeholder

variable {cs t : List Char}

/-- Where no placeholder can end, none begins earlier either. Induction on the scan of the front. -/
theorem pieces_append_of_no_closing (h : '}' ∉ t) (cs : List Char) :
    pieces (cs ++ t) = pieces cs ++ pieces t := by
  fun_induction pieces cs with
  | case1 => rfl
  | case2 c rest name after hfront _ ih =>
    obtain ⟨hname, heq⟩ := atFront?_eq_some_iff.1 hfront
    have hwhole : atFront? (c :: (rest ++ t)) = some (name, after ++ t) := by
      rw [← List.cons_append, heq, List.append_assoc]
      exact atFront?_marked hname _
    rw [List.cons_append, pieces_cons_of_found hwhole, ih, List.cons_append]
  | case3 c rest hfront ih =>
    have hwhole : atFront? (c :: (rest ++ t)) = none := by
      cases hfound : atFront? (c :: (rest ++ t)) with
      | none => rfl
      | some found =>
        obtain ⟨hname, heq⟩ := atFront?_eq_some_iff.1 hfound
        rw [← List.cons_append] at heq
        rcases List.append_eq_append_iff.1 heq with ⟨m, hmarked, ht⟩ | ⟨r, hfront', -⟩
        · cases m with
          | nil =>
            have hshort := atFront?_marked hname []
            rw [hmarked, List.append_nil, List.append_nil, hfront] at hshort
            cases hshort
          | cons d m =>
            -- the last sign of the placeholder would stand in what was added
            have hend : marked found.1 = ('{' :: '@' :: (found.1 ++ ['@'])) ++ ['}'] := by
              simp [marked]
            have hlast : (c :: rest ++ d :: m).getLast? = some '}' := by
              rw [← hmarked, hend, List.getLast?_concat]
            rw [List.getLast?_append_cons] at hlast
            exact absurd (ht ▸ List.mem_append_left _ (List.mem_of_getLast? hlast)) h
        · have hshort := atFront?_marked hname r
          rw [← hfront', hfront] at hshort
          cases hshort
    rw [List.cons_append, pieces_cons_of_none hwhole, ih, List.cons_append]

end Placeholder

namespace Text

/-- A text is its trimmed form with blanks on both sides. -/
theorem exists_blanks (cs : List Char) :
    ∃ front back, cs = front ++ (trim cs ++ back)
      ∧ (∀ c ∈ front, isBlank c = true) ∧ ∀ c ∈ back, isBlank c = true := by
  have hblank : ∀ cs : List Char, ∀ c ∈ cs.takeWhile isBlank, isBlank c = true :=
    fun cs => List.all_eq_true.1 List.all_takeWhile
  refine ⟨cs.takeWhile isBlank, ((trimFront cs).reverse.takeWhile isBlank).reverse, ?_,
    hblank cs, fun c hc => hblank _ c (List.mem_reverse.1 hc)⟩
  have hback : trim cs ++ ((trimFront cs).reverse.takeWhile isBlank).reverse = trimFront cs := by
    unfold trim trimBack
    generalize trimFront cs = rest
    rw [← List.reverse_append, trimFront, List.takeWhile_append_dropWhile, List.reverse_reverse]
  rw [hback, trimFront, List.takeWhile_append_dropWhile]

end Text

namespace Bindings

variable {b : Bindings} {text value : String}

/-- Blanks around a text stay around what it is filled in to. -/
theorem substitute_of_trimmed (h : b.substitute (Text.trimmed text) = .ok value) :
    ∃ front back, text.toList = front ++ ((Text.trimmed text).toList ++ back)
      ∧ b.substitute text = .ok (String.ofList (front ++ (value.toList ++ back))) := by
  obtain ⟨front, back, htext, hfront, hback⟩ := Text.exists_blanks text.toList
  have hno : ∀ {sign : Char}, Text.isBlank sign = false → ∀ {cs : List Char},
      (∀ c ∈ cs, Text.isBlank c = true) → sign ∉ cs := by
    intro sign hsign cs hcs hmem
    rw [hcs sign hmem] at hsign
    cases hsign
  have hbraces : '{' ∉ front ∧ '{' ∉ back ∧ '}' ∉ back :=
    ⟨hno (by decide) hfront, hno (by decide) hback, hno (by decide) hback⟩
  obtain ⟨filled, hfilled, hvalue⟩ := bind_eq_ok_iff.1 h
  cases hvalue
  have hpieces := pieces_append_of_no_brace hbraces.2.1 []
  rw [List.append_nil] at hpieces
  refine ⟨front, back, by rw [Text.trimmed, String.toList_ofList]; exact htext, ?_⟩
  rw [Text.trimmed, String.toList_ofList] at hfilled
  rw [substitute, htext, pieces_append_of_no_brace hbraces.1,
    Placeholder.pieces_append_of_no_closing hbraces.2.2, hpieces, Placeholder.pieces, List.append_nil,
    fillAll_append, fillAll_literal, fillAll_append, hfilled, fillAll_literal, String.toList_ofList]
  rfl

/-- Every text can be filled in when its variables are bound. -/
theorem exists_substitute (text : String) :
    ∃ (b : Bindings) (value : String), b.substitute text = .ok value := by
  let b : Bindings := (Placeholder.referenced text).map (·, .null)
  refine ⟨b, ?_⟩
  cases hfilled : b.substitute text with
  | ok value => exact ⟨value, rfl⟩
  | error e =>
    obtain ⟨name, hfind, -⟩ := substitute_eq_error_iff.1 hfilled
    -- the first name that is missing is one of those that were bound
    have hmem : name ∈ OrderedMap.keys b := by
      simpa [b, OrderedMap.keys, Function.comp_def] using List.mem_of_find?_eq_some hfind
    have hlacks := List.find?_some hfind
    exact absurd hmem (OrderedMap.get?_eq_none_iff.1 (Option.isNone_iff_eq_none.1 hlacks))

end Bindings

/-! ## The two places of a redirect -/

namespace Scope

/-- The file that a redirect with this path is written to. -/
def writtenPath (s : Scope) (path : String) : Except BindingError String :=
  (s.expand path).map (Path.resolve · s.baseDirectory)

/-- The file that a redirect with this path is read from. -/
def readPath (s : Scope) (path : String) : Except BindingError String :=
  (s.bindings.substitute (Text.trimmed path)).map (Path.resolve · s.baseDirectory)

/-- The same scope, with other files. -/
def onDisk (s : Scope) (disk : Disk) : Scope :=
  { s with disk := disk }

end Scope

/-- A path is taken as it is: it has no outer blanks and is no redirect itself. -/
structure IsPlainPath (path : String) : Prop where
  trimmed : Text.trimmed path = path
  direct : redirectPath? path = none

variable {t path full body : String} {rule : Rule} {scene : Scene}

theorem IsPlainPath.expand (h : IsPlainPath path) (s : Scope) :
    s.expand path = s.bindings.substitute (Text.trimmed path) := by
  unfold Scope.expand Scope.resolveRedirect
  rw [h.direct, h.trimmed]
  rfl

/-- On a disk without entries no text can be read. -/
theorem Disk.readText_nothing (path : String) : ∃ e, (Disk.mk []).readText path = .error e := by
  cases hread : (Disk.mk []).readText path with
  | error e => exact ⟨e, rfl⟩
  | ok text =>
    obtain ⟨content, hcontent, -⟩ := bind_eq_ok_iff.1 hread
    obtain ⟨_, -, hcontent⟩ := bind_eq_ok_iff.1 hcontent
    split at hcontent
    · cases hcontent
    · obtain ⟨dir, -, hcontent⟩ := bind_eq_ok_iff.1 hcontent
      split at hcontent
      · cases hcontent
      · obtain ⟨place, -, hcontent⟩ := bind_eq_ok_iff.1 hcontent
        cases hcontent

/-- **A redirect is written where it is read, in every scope, exactly if its path is plain.** Where the
path is a redirect, writing asks for a file; where it has blanks, writing keeps them. -/
theorem writtenPath_eq_readPath_iff :
    (∀ s : Scope, s.writtenPath path = s.readPath path) ↔ IsPlainPath path := by
  constructor
  · intro hsame
    obtain ⟨b, value, hvalue⟩ := Bindings.exists_substitute (Text.trimmed path)
    have hexpand : (Scope.mk b ⟨[]⟩ none).expand path = .ok value := by
      have h := hsame ⟨b, ⟨[]⟩, none⟩
      unfold Scope.writtenPath Scope.readPath at h
      rw [hvalue] at h
      cases hexpand : (Scope.mk b ⟨[]⟩ none).expand path with
      | error e => rw [hexpand] at h; cases h
      | ok other => rw [hexpand] at h; cases h; rfl
    unfold Scope.expand Scope.resolveRedirect at hexpand
    have hdirect : redirectPath? path = none := by
      cases hredirect : redirectPath? path with
      | none => rfl
      | some file =>
        rw [hredirect] at hexpand
        obtain ⟨content, hcontent, -⟩ := bind_eq_ok_iff.1 hexpand
        obtain ⟨name, -, hcontent⟩ := bind_eq_ok_iff.1 hcontent
        obtain ⟨e, he⟩ := Disk.readText_nothing (Path.resolve name none)
        dsimp only at hcontent
        rw [he] at hcontent
        cases hcontent
    refine ⟨?_, hdirect⟩
    rw [hdirect, ok_bind] at hexpand
    obtain ⟨front, back, hpath, hfilled⟩ := Bindings.substitute_of_trimmed hvalue
    -- the value would be as long as it is with the blanks
    have hlength := congrArg (·.toList.length) (Except.ok.inj (hexpand.symm.trans hfilled))
    simp only [String.toList_ofList, List.length_append] at hlength
    have hfront : front = [] := List.eq_nil_of_length_eq_zero (by omega)
    have hback : back = [] := List.eq_nil_of_length_eq_zero (by omega)
    rw [hfront, hback, List.nil_append, List.append_nil] at hpath
    exact (String.toList_inj.1 hpath).symm
  · intro hplain s
    unfold Scope.writtenPath Scope.readPath
    rw [hplain.expand s]

/-! ## Storing and reading back -/

/-- A text that is stored under a redirect is written to its file, and no variable changes. -/
theorem Extractor.stored_of_ok {β : Type} {found : Except RuleError β} (content : β → String)
    (value : β → Json) {stored : β} (hconfig : rule.config = .string t)
    (hredirect : redirectPath? t = some path) (hfound : found = .ok stored) {x : Extraction}
    (hx : x = orFail scene do
      let name ← Extractor.target rule
      let b ← found
      store scene name (content b) (value b))
    (hok : x.result = .ok ()) :
    x.edits = [] ∧ ∃ full, scene.scope.writtenPath path = .ok full
      ∧ scene.scope.disk.writeText full (content stored) = .ok x.disk := by
  subst hx hfound
  have htarget : target rule = .ok t := by
    unfold target
    rw [hconfig]
  unfold store at hok ⊢
  simp only [htarget, ok_bind, hredirect] at hok ⊢
  unfold write Scene.expand at hok ⊢
  unfold Scope.writtenPath
  cases hexpand : scene.scope.expand path with
  | error e =>
    rw [hexpand] at hok
    cases hok
  | ok name =>
    rw [hexpand] at hok
    simp only [Except.mapError, ok_bind] at hok ⊢
    cases hwrite : scene.scope.disk.writeText (Path.resolve name scene.scope.baseDirectory)
        (content stored) with
    | error reason =>
      rw [hwrite] at hok
      cases hok
    | ok disk => exact ⟨rfl, _, rfl, hwrite⟩

/-- A redirect stands for the text of the file that it is read from. -/
theorem Scope.resolveRedirect_of_readPath {s : Scope} (hredirect : redirectPath? t = some path)
    (hpath : s.readPath path = .ok full) (hread : s.disk.readText full = .ok body) :
    s.resolveRedirect t = .ok body := by
  unfold Scope.readPath at hpath
  unfold Scope.resolveRedirect
  cases hname : s.bindings.substitute (Text.trimmed path) with
  | error e =>
    rw [hname] at hpath
    cases hpath
  | ok name =>
    rw [hname] at hpath
    cases hpath
    have hcontent : s.disk.readText (Path.resolve name s.baseDirectory) = .ok body := hread
    simp only [hredirect]
    rw [hname, ok_bind, hcontent]

/-- What is stored under a target is read under it: once an extractor has stored a body, the target
stands for the text of the body, or for its JSON in the pretty form. The variables are the same as
before. -/
structure ReadsBack (t : String) : Prop where
  text : ∀ (rule : Rule) (scene : Scene) (body : String), rule.config = .string t →
    scene.responseText = .ok body → (Extractor.text rule scene).result = .ok () →
    (Extractor.text rule scene).edits = []
      ∧ (scene.scope.onDisk (Extractor.text rule scene).disk).resolveRedirect t = .ok body
  json : ∀ (rule : Rule) (scene : Scene) (body : Json), rule.config = .string t →
    scene.responseJson = .ok body → (Extractor.json rule scene).result = .ok () →
    (Extractor.json rule scene).edits = []
      ∧ (scene.scope.onDisk (Extractor.json rule scene).disk).resolveRedirect t =
        .ok body.prettyText

/-- **What is stored under a redirect with a plain path is read under it**, whatever the variables, the
base directory, the files and the body are. For no other path are the two places the same in every
scope. -/
theorem Extractor.readsBack_of_plain (t path : String) (hredirect : redirectPath? t = some path) :
    (IsPlainPath path → ReadsBack t)
    ∧ (IsPlainPath path ↔ ∀ s : Scope, s.writtenPath path = s.readPath path) := by
  refine ⟨fun hplain => ?_, writtenPath_eq_readPath_iff.symm⟩
  have hreads : ∀ {scene : Scene} {x : Extraction} {stored : String},
      (x.edits = [] ∧ ∃ full, scene.scope.writtenPath path = .ok full
        ∧ scene.scope.disk.writeText full stored = .ok x.disk) →
      x.edits = [] ∧ (scene.scope.onDisk x.disk).resolveRedirect t = .ok stored := by
    rintro scene x stored ⟨hedits, full, hpath, hwrite⟩
    rw [writtenPath_eq_readPath_iff.2 hplain] at hpath
    have hpath' : (scene.scope.onDisk x.disk).readPath path = .ok full := hpath
    exact ⟨hedits, Scope.resolveRedirect_of_readPath hredirect hpath' (Disk.readText_writeText hwrite)⟩
  exact {
    text := fun rule scene body hconfig hbody hok =>
      hreads (stored_of_ok id Json.string hconfig hredirect hbody rfl hok)
    json := fun rule scene body hconfig hbody hok =>
      hreads (stored_of_ok Json.prettyText id hconfig hredirect hbody rfl hok) }

/-- A response, a variable, and a file that holds the name of another one. -/
def storing : Scene where
  script := ⟨"store", [], none, none, .empty⟩
  request := none
  response := some ⟨200, "OK", [], "kept".toUTF8⟩
  scope :=
    ⟨[("n", .string " 7")], Disk.empty.create "name.txt" "elsewhere.txt".toUTF8, none⟩

/-- A rule that takes the body as text. -/
def textRule (t : String) : Rule :=
  ⟨.extraction, "text", .string t, false, "store"⟩

theorem responseText_storing : storing.responseText = .ok "kept" :=
  Extractor.responseText_eq_ok_iff.2 ⟨_, rfl, Text.ofUtf8?_toUTF8 "kept"⟩

/-- The blanks of a variable in a path are kept on both sides. -/
theorem Extractor.readsBack_of_plain_numbered :
    redirectPath? "@out-\x7b@ n @\x7d.txt" = some "out-\x7b@ n @\x7d.txt"
    ∧ IsPlainPath "out-\x7b@ n @\x7d.txt"
    ∧ (Extractor.text (textRule "@out-\x7b@ n @\x7d.txt") storing).result.isOk = true
    ∧ (storing.scope.onDisk (Extractor.text (textRule "@out-\x7b@ n @\x7d.txt")
        storing).disk).resolveRedirect "@out-\x7b@ n @\x7d.txt" = .ok "kept"
    ∧ storing.scope.readPath "out-\x7b@ n @\x7d.txt" = .ok "out- 7.txt" := by
  have hredirect : redirectPath? "@out-\x7b@ n @\x7d.txt" = some "out-\x7b@ n @\x7d.txt" := by
    decide +kernel
  have hplain : IsPlainPath "out-\x7b@ n @\x7d.txt" := ⟨by decide +kernel, by decide +kernel⟩
  have hok : (Extractor.text (textRule "@out-\x7b@ n @\x7d.txt") storing).result.isOk = true := by
    decide +kernel
  obtain ⟨_, hresult⟩ := exists_of_isOk hok
  have hreads := (readsBack_of_plain _ _ hredirect).1 hplain
  exact ⟨hredirect, hplain, hok, (hreads.text _ storing "kept" rfl responseText_storing hresult).2,
    by decide +kernel⟩

/-- A blank behind the sign stays in the path that is written and is left out of the one that is read.
Behind a second sign stands, for writing, the name of a file that holds the path. -/
theorem not_readsBack_misplaced :
    (redirectPath? "@ out.txt" = some " out.txt" ∧ ¬ ReadsBack "@ out.txt")
    ∧ redirectPath? "@@name.txt" = some "@name.txt" ∧ ¬ ReadsBack "@@name.txt" := by
  have hnot : ∀ t, (Extractor.text (textRule t) storing).result.isOk = true →
      ((storing.scope.onDisk (Extractor.text (textRule t) storing).disk).resolveRedirect t).isOk =
        false → ¬ ReadsBack t := by
    intro t hok hmissing hreads
    obtain ⟨_, hresult⟩ := exists_of_isOk hok
    rw [(hreads.text _ storing "kept" rfl responseText_storing hresult).2] at hmissing
    cases hmissing
  exact ⟨⟨by decide +kernel, hnot _ (by decide +kernel) (by decide +kernel)⟩, by decide +kernel,
    hnot _ (by decide +kernel) (by decide +kernel)⟩

end RestSuite
