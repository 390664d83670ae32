import RestSuite.Settings.Store

/-!
# Keeping the settings in force valid

A host loads settings from documents and from files, changes those in force and goes back to the
standard ones, in any order. Loading a file puts settings in force twice: first as they stand in the
file, then with the base directory moved to where the file is; the answer is worked out beside that.

* **`Settings.Action`**, **`Settings.after`** — what a host can do, and the settings in force after
  any number of such actions.
* **`Settings.loadFile_cases`** — all that loading a file can come to.
* **`Settings.after_valid`** — the settings in force are valid, whatever was done before.
* **`Settings.after_consistent`** — and each loader answers with the settings that it put in force,
  or with an error and has changed nothing; there is no mixture of standard settings and unfit ones.
-/

namespace RestSuite.Settings

/-! ## Actions -/

/-- What a host can do to the settings in force. -/
inductive Action where
  | load (document : Option Json)
  /-- Loads a file from the disk as it is at that moment. -/
  | loadFile (disk : Disk) (path : String)
  | update (change : Settings → Settings)
  | reset

/-- What an action comes to: the answer, which only loaders give, the settings in force, notices. -/
structure Result where
  answer : Option (Except LoadError Settings)
  inForce : Settings
  notices : List Notice

/-- Takes an action on the settings in force. -/
def Action.take (current : Settings) : Action → Result
  | .load document =>
    let (loaded, notices) := Settings.load document
    ⟨some (.ok loaded), loaded, notices⟩
  | .loadFile disk path =>
    let (answer, inForce, notices) := Settings.loadFile disk path current
    ⟨some answer, inForce, notices⟩
  | .update change =>
    let (inForce, notices) := current.update change
    ⟨none, inForce, notices⟩
  | .reset => ⟨none, standard, []⟩

/-- The settings in force after some actions. In the beginning the standard ones are. -/
def after (actions : List Action) : Settings :=
  actions.foldl (fun current action => (action.take current).inForce) standard

/-- The settings meet all conditions. -/
def Valid (s : Settings) : Prop :=
  s.fault? = none

instance (s : Settings) : Decidable s.Valid :=
  inferInstanceAs (Decidable (_ = _))

/-- The action reads a document. -/
inductive Action.Reads : Action → Json → Prop where
  | load (document : Json) : Reads (.load (some document)) document
  | loadFile {disk : Disk} {path text : String} {document : Json}
      (htext : disk.readText path = .ok text) (hparse : Json.parse text = .ok document) :
      Reads (.loadFile disk path) document

/-- A value cannot come into force: it cannot be read as settings, or what it sets is not valid. -/
inductive Unfit (value : Json) : Prop where
  | unreadable {e : ReadError} (hread : ofJson value = .error e)
  | invalid {own : Settings} (hread : ofJson value = .ok own) (hfault : ¬ own.Valid)

/-- Settings that stand in the file at a path. The base directory is meant from where it is. -/
def locatedAt (path : String) (s : Settings) : Settings :=
  match Path.parent? path with
  | some parent => { s with baseDirectory := s.baseDirectory.map (Path.join parent) }
  | none => s

/-- Settings as an action means them that found them in a document. -/
def Action.meant : Action → Settings → Settings
  | .loadFile _ path, s => s.locatedAt path
  | _, s => s

/-- What holds of an action on the settings that are in force. -/
structure Action.Consistent (action : Action) (current : Settings) : Prop where
  /-- Valid settings are in force afterwards. -/
  valid : (action.take current).inForce.Valid
  /-- A loader answers with the settings that it put in force. -/
  loaded : ∀ s, (action.take current).answer = some (.ok s) → (action.take current).inForce = s
  /-- A loader that fails changes nothing. -/
  failed : ∀ e, (action.take current).answer = some (.error e) →
    (action.take current).inForce = current
  /-- A loader that finds fit settings answers with these. -/
  fit : ∀ document value own, action.Reads document → document.field? documentKey = some value →
    ofJson value = .ok own → own.Valid →
      (action.take current).answer = some (.ok (action.meant own))
  /-- A loader that finds unfit settings answers with the standard ones. -/
  unfit : ∀ document value, action.Reads document → document.field? documentKey = some value →
    Unfit value → (action.take current).answer = some (.ok standard)
  /-- A change that leaves unfit settings ends in the standard ones. -/
  reverted : ∀ change, action = .update change → ¬ (change current).Valid →
    (action.take current).inForce = standard

/-! ## Validation -/

variable {s own current : Settings} {document value : Json}

theorem standard_valid : standard.Valid := by decide

theorem validated_of_valid (h : s.Valid) : s.validated = s := by
  unfold validated
  rw [h]
  rfl

theorem validated_of_not_valid (h : ¬ s.Valid) : s.validated = standard := by
  unfold validated
  rw [if_neg]
  rw [Option.isNone_iff_eq_none]
  exact h

theorem validated_valid (s : Settings) : s.validated.Valid := by
  by_cases h : s.Valid
  · rw [validated_of_valid h]
    exact h
  · rw [validated_of_not_valid h]
    exact standard_valid

/-- The standard settings leave nothing open that others leave open too. -/
theorem merge_standard (s : Settings) : standard.merge s = s := by
  have hopen (x : Option String) : (x <|> none) = x := by cases x <;> rfl
  show { s with baseDirectory := s.baseDirectory <|> none, baseUrl := s.baseUrl <|> none } = s
  rw [hopen, hopen]

/-! ## Moving the base directory -/

theorem below_eq (parent : String) (s : Settings) :
    s.below parent = { s with baseDirectory := s.baseDirectory.map (Path.join parent) } := by
  unfold below
  cases hdir : s.baseDirectory with
  | none =>
    show s = { s with baseDirectory := none }
    rw [← hdir]
  | some dir =>
    dsimp only
    by_cases habsolute : Path.isAbsolute dir = true
    · -- joining an absolute path gives this path
      have hjoin : Path.join parent dir = dir := by
        unfold Path.join
        rw [if_pos habsolute]
      rw [if_pos habsolute, Option.map_some, hjoin, ← hdir]
    · rw [if_neg habsolute]
      rfl

/-- No condition is about the base directory. -/
theorem valid_below {parent : String} (h : s.Valid) : (s.below parent).Valid := by
  rw [below_eq]
  exact h

theorem valid_locatedAt {path : String} (h : s.Valid) : (s.locatedAt path).Valid := by
  unfold locatedAt
  split <;> exact h

theorem standard_locatedAt (path : String) : standard.locatedAt path = standard := by
  unfold locatedAt
  split <;> rfl

/-! ## Loading -/

theorem load_fst (document : Option Json) : (load document).1 = (requested document).1.validated :=
  rfl

theorem load_valid (document : Option Json) : (load document).1.Valid :=
  validated_valid _

theorem load_of_fit (hvalue : document.field? documentKey = some value)
    (hread : ofJson value = .ok own) (hvalid : own.Valid) : (load (some document)).1 = own := by
  have hrequested : (requested (some document)).1 = standard.merge own := by
    unfold requested
    rw [Option.bind_some, hvalue]
    dsimp only
    rw [hread]
  rw [load_fst, hrequested, merge_standard, validated_of_valid hvalid]

/-- Where a value cannot be read, nothing of it is asked for; where it is not valid, nothing of it
is kept. -/
theorem load_of_unfit (hvalue : document.field? documentKey = some value) (h : Unfit value) :
    (load (some document)).1 = standard := by
  rw [load_fst]
  unfold requested
  rw [Option.bind_some, hvalue]
  dsimp only
  cases h with
  | unreadable hread =>
    rw [hread]
    exact validated_of_valid standard_valid
  | invalid hread hfault =>
    rw [hread]
    show (standard.merge _).validated = standard
    rw [merge_standard, validated_of_not_valid hfault]

/-- The settings of the document in a file come into force, with the base directory moved, and are
the answer. -/
theorem loadFile_of_document {disk : Disk} {path text : String}
    (htext : disk.readText path = .ok text) (hparse : Json.parse text = .ok document)
    (current : Settings) :
    (loadFile disk path current).1 = .ok ((load (some document)).1.locatedAt path)
    ∧ (loadFile disk path current).2.1 = (load (some document)).1.locatedAt path := by
  unfold loadFile locatedAt
  rw [htext]
  dsimp only
  rw [hparse]
  dsimp only
  cases Path.parent? path with
  | none => exact ⟨rfl, rfl⟩
  | some parent =>
    -- the second write goes through a validation of its own, which finds nothing
    have hmoved : ((load (some document)).1.below parent).validated =
        (load (some document)).1.below parent :=
      validated_of_valid (valid_below (load_valid (some document)))
    exact ⟨congrArg Except.ok (below_eq parent _), hmoved.trans (below_eq parent _)⟩

/-- **All that loading a file can come to.** Its document is read and its settings come into force,
or the loading fails and changes nothing. -/
theorem loadFile_cases (disk : Disk) (path : String) (current : Settings) :
    (∃ document, (Action.loadFile disk path).Reads document
      ∧ (loadFile disk path current).1 = .ok ((load (some document)).1.locatedAt path)
      ∧ (loadFile disk path current).2.1 = (load (some document)).1.locatedAt path)
    ∨ ∃ e, (loadFile disk path current).1 = .error e
        ∧ (loadFile disk path current).2.1 = current := by
  cases htext : disk.readText path with
  | error reason =>
    refine .inr ⟨.unreadable path reason, ?_⟩
    unfold loadFile
    rw [htext]
    exact ⟨rfl, rfl⟩
  | ok text =>
    cases hparse : Json.parse text with
    | error reason =>
      refine .inr ⟨.malformed path reason, ?_⟩
      unfold loadFile
      rw [htext]
      dsimp only
      rw [hparse]
      exact ⟨rfl, rfl⟩
    | ok document =>
      exact .inl ⟨document, .loadFile htext hparse, loadFile_of_document htext hparse current⟩

/-! ## Actions one after the other -/

/-- Every action leaves valid settings in force, if it has found valid ones. -/
theorem take_valid (h : current.Valid) (action : Action) : (action.take current).inForce.Valid := by
  cases action with
  | load document => exact load_valid document
  | loadFile disk path =>
    show (loadFile disk path current).2.1.Valid
    obtain ⟨document, -, -, hmoved⟩ | ⟨e, -, hsame⟩ := loadFile_cases disk path current
    · rw [hmoved]
      exact valid_locatedAt (load_valid (some document))
    · rw [hsame]
      exact h
  | update change => exact validated_valid _
  | reset => exact standard_valid

/-- **The settings in force are valid**, whatever was done before. Induction on the actions; each of
them starts from what the others left. -/
theorem after_valid (actions : List Action) : (after actions).Valid := by
  suffices ∀ s : Settings, s.Valid →
      (actions.foldl (fun current action => (action.take current).inForce) s).Valid from
    this standard standard_valid
  induction actions with
  | nil => exact fun s h => h
  | cons action rest ih => exact fun s h => ih _ (take_valid h action)

/-- A loader answers with what it put in force, or has changed nothing. -/
theorem take_answer (action : Action) (current : Settings) :
    (∀ s, (action.take current).answer = some (.ok s) → (action.take current).inForce = s)
    ∧ ∀ e, (action.take current).answer = some (.error e) →
        (action.take current).inForce = current := by
  cases action with
  | load document => exact ⟨fun s h => by cases h; rfl, nofun⟩
  | loadFile disk path =>
    show (∀ s, some (loadFile disk path current).1 = some (.ok s) →
        (loadFile disk path current).2.1 = s)
      ∧ ∀ e, some (loadFile disk path current).1 = some (.error e) →
        (loadFile disk path current).2.1 = current
    obtain ⟨document, -, hanswer, hmoved⟩ | ⟨e, hanswer, hsame⟩ := loadFile_cases disk path current
    · rw [hanswer, hmoved]
      exact ⟨fun s h => by cases h; rfl, nofun⟩
    · rw [hanswer, hsame]
      exact ⟨nofun, fun _ _ => rfl⟩
  | update change => exact ⟨nofun, nofun⟩
  | reset => exact ⟨nofun, nofun⟩

/-- A loader that has read a document answers with what the document sets, as it means that. -/
theorem answer_of_reads {action : Action} (h : action.Reads document) (current : Settings) :
    (action.take current).answer = some (.ok (action.meant (load (some document)).1)) := by
  cases h with
  | load => rfl
  | loadFile htext hparse => exact congrArg some (loadFile_of_document htext hparse current).1

theorem meant_standard (action : Action) : action.meant standard = standard := by
  cases action with
  | loadFile disk path => exact standard_locatedAt path
  | _ => rfl

/-- **The settings in force are in step with what loaders answer.** Whatever was done before, valid
settings are in force after every action. A loader that succeeds answers with the settings in force,
the base directory of a file moved to where the file is, and one that fails leaves them as they
were. Settings that cannot be read or are not valid give way to the standard ones as a whole. -/
theorem after_consistent (actions : List Action) (action : Action) :
    action.Consistent (after actions) where
  valid := take_valid (after_valid actions) action
  loaded := (take_answer action _).1
  failed := (take_answer action _).2
  fit document value own hreads hvalue hread hvalid := by
    rw [answer_of_reads hreads, load_of_fit hvalue hread hvalid]
  unfit document value hreads hvalue hunfit := by
    rw [answer_of_reads hreads, load_of_unfit hvalue hunfit, meant_standard]
  reverted change heq hfault := by
    subst heq
    exact validated_of_not_valid hfault

-- nothing of a document is kept in which one value is not valid
example :
    after [.update fun s => { s with timeout := 5 },
      .load (some (.object [(documentKey,
        .object [("failFast", .bool true), ("timeout", .ofNat 0)])]))] = standard := by
  decide

end RestSuite.Settings
