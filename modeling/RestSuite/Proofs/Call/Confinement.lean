import RestSuite.Proofs.Behavior.Redirects
import RestSuite.Proofs.Call.Exchange
import RestSuite.Proofs.Call.Parallel

/-!
# Calls that stay away from the disk

Only the texts that a script writes down can name a file. What is filled in for a variable, and what
a server answers, is never read as a redirect, even if it looks like one.

* **`ResolvedScript.IsInline`** — a script in which no text begins with the sign of a redirect.
* **`Caller.parallel_onDisk`** — no step of such a script can tell one disk from another, or write.
* **`Caller.run_onDisk`** — so the call is the same on every disk, and every disk stays as it is.
-/

namespace RestSuite

variable {σ : Type}

/-- No text of the script that is ever expanded begins with the sign of a redirect. -/
structure ResolvedScript.IsInline (s : ResolvedScript) : Prop where
  uri : ∀ method uri, s.line? = some (method, uri) → RestSuite.IsInline uri
  headers : ∀ header ∈ s.layer.headers, RestSuite.IsInline header.2
  env : ∀ name text, (name, .string text) ∈ s.layer.env → RestSuite.IsInline text
  body : ∀ text, s.body = some (.string text) → RestSuite.IsInline text
  rules : ∀ stage, ∀ rule ∈ s.rules stage, rule.IsInline

/-- The same world, with other files. -/
def World.onDisk (w : World σ) (disk : Disk) : World σ :=
  { w with disk := disk }

namespace Caller

variable {c : Caller σ} {s : ResolvedScript} {w : World σ} {disk : Disk}

/-! ## Building -/

theorem expand_onDisk {text : String} (h : RestSuite.IsInline text) :
    c.expand (w.onDisk disk) text = c.expand w text := by
  unfold Caller.expand
  rw [Scope.expand_of_isInline _ h, Scope.expand_of_isInline _ h]
  rfl

theorem expandValue_onDisk {value : Json}
    (h : ∀ text, value = .string text → RestSuite.IsInline text) :
    c.expandValue (w.onDisk disk) value = c.expandValue w value := by
  cases value with
  | string text => exact congrArg (Except.map Json.string) (expand_onDisk (h text rfl))
  | _ => rfl

theorem expandBody_onDisk {body : Json}
    (h : ∀ text, body = .string text → RestSuite.IsInline text) :
    c.expandBody (w.onDisk disk) body = c.expandBody w body := by
  cases body with
  | string text => exact expand_onDisk (h text rfl)
  | _ => rfl

theorem expandHeaders_onDisk {headers : List Header}
    (h : ∀ header ∈ headers, RestSuite.IsInline header.2) :
    c.expandHeaders (w.onDisk disk) headers = c.expandHeaders w headers := by
  unfold Caller.expandHeaders
  induction headers with
  | nil => rfl
  | cons header rest ih =>
    obtain ⟨hheader, hrest⟩ := List.forall_mem_cons.1 h
    rw [List.mapM_cons, List.mapM_cons, expand_onDisk hheader, ih hrest]

theorem prepare_onDisk (h : s.IsInline) : c.prepare s (w.onDisk disk) = c.prepare s w := by
  have hheaders : c.expandHeaders (w.onDisk disk) s.layer.headers =
      c.expandHeaders w s.layer.headers := expandHeaders_onDisk h.headers
  have hbody : s.body.mapM (c.expandBody (w.onDisk disk)) = s.body.mapM (c.expandBody w) := by
    cases hvalue : s.body with
    | none => rfl
    | some value =>
      have hvalue' : ∀ text, value = .string text → RestSuite.IsInline text :=
        fun text htext => h.body text (by rw [hvalue, htext])
      simp only [Option.mapM_some, expandBody_onDisk hvalue']
  unfold Caller.prepare
  rw [hheaders, hbody]
  cases hline : s.line? with
  | none =>
    unfold ResolvedScript.requestLine
    rw [hline]
    rfl
  | some line =>
    obtain ⟨method, uri⟩ := line
    have huri : c.expand (w.onDisk disk) uri = c.expand w uri :=
      expand_onDisk (h.uri method uri hline)
    unfold ResolvedScript.requestLine
    rw [hline]
    show (c.expand (w.onDisk disk) uri >>= _) = (c.expand w uri >>= _)
    rw [huri]

/-! ## Rules -/

theorem check_onDisk (hregistry : c.registry = .standard) {stage : Stage} {rule : Rule}
    (h : rule.IsInline) (request : Option Request) (response : Option Response) :
    c.check stage rule (c.scene s request response (w.onDisk disk)) (w.onDisk disk) =
      ((c.check stage rule (c.scene s request response w) w).1,
        (c.check stage rule (c.scene s request response w) w).2.onDisk disk) := by
  have hscene : c.scene s request response (w.onDisk disk) =
      (c.scene s request response w).onDisk disk := rfl
  unfold Caller.check Registry.assertion
  rw [hregistry, hscene]
  cases hkey : OrderedMap.get? Registry.standard.assertions rule.key with
  | none => rfl
  | some assertion =>
    dsimp only
    rw [Assertion.standard_onDisk h hkey]
    rfl

theorem takeOne_onDisk (hregistry : c.registry = .standard) {rule : Rule} (h : rule.IsInline)
    (request : Option Request) (response : Option Response) :
    c.takeOne rule (c.scene s request response (w.onDisk disk)) (w.onDisk disk) =
      ((c.takeOne rule (c.scene s request response w) w).1,
        (c.takeOne rule (c.scene s request response w) w).2.onDisk disk) := by
  have hscene : c.scene s request response (w.onDisk disk) =
      (c.scene s request response w).onDisk disk := rfl
  unfold Caller.takeOne Registry.extractor
  rw [hregistry, hscene]
  cases hkey : OrderedMap.get? Registry.standard.extractors rule.key with
  | none => rfl
  | some extractor =>
    dsimp only
    rw [Extractor.standard_onDisk h hkey]
    rfl

/-! ## Calls -/

/-- **No step of an inline script sees the disk or changes it.** -/
theorem parallel_onDisk (hregistry : c.registry = .standard) (h : s.IsInline) (disk : Disk) :
    c.Parallel s fun w w' => w' = w.onDisk disk where
  stopped := by rintro w _ rfl; rfl
  poll := by rintro w _ rfl; rfl
  note := by rintro w _ n rfl; rfl
  expandValue := by
    rintro w _ ⟨name, value⟩ hmem rfl
    exact (expandValue_onDisk fun text htext => h.env name text (htext ▸ hmem)).symm
  bind := by rintro w _ name value rfl; rfl
  prepare := by rintro w _ rfl; exact (prepare_onDisk h).symm
  check := by
    rintro w _ stage rule hmem request response rfl
    rw [check_onDisk hregistry (h.rules stage rule hmem)]
    exact .intro _ rfl
  takeOne := by
    rintro w _ rule hmem request response rfl
    rw [takeOne_onDisk hregistry (h.rules .extraction rule hmem)]
    exact .intro _ rfl
  send := by rintro w _ request rfl; exact ⟨rfl, rfl⟩

/-- **Only the texts of a script touch the disk.** Where none of them begins with the sign of a
redirect, a call with the standard behaviors has the same record on every disk and leaves the same
world, with the same variables, events and sent requests; and the disk is the one that it was. This
holds for all variables, all transports and all evaluators, so no value that is bound and nothing
that is received can make the call read or write a file, whatever it looks like. -/
theorem run_onDisk (hregistry : c.registry = .standard) (h : s.IsInline) (w : World σ)
    (disk : Disk) :
    c.run s (w.onDisk disk) = ((c.run s w).1, (c.run s w).2.onDisk disk)
    ∧ (c.run s w).2.disk = w.disk := by
  have hsame : ∀ disk, c.run s (w.onDisk disk) = ((c.run s w).1, (c.run s w).2.onDisk disk) := by
    intro disk
    have hagree := (parallel_onDisk hregistry h disk).run (w := w) rfl
    generalize c.run s w = r at hagree ⊢
    generalize c.run s (w.onDisk disk) = r' at hagree ⊢
    cases hagree with
    | intro call hworld => rw [hworld]
  -- on its own disk the call leaves what it leaves, so this disk was not written to
  have hown : c.run s w = ((c.run s w).1, (c.run s w).2.onDisk w.disk) := hsame w.disk
  refine ⟨hsame disk, ?_⟩
  rw [hown]
  rfl

/-- A script that passes on the value of a variable, in every place where a text is expanded. -/
def forwarding : ResolvedScript where
  name := "forward"
  chain := []
  line? := some (.post, "/\x7b@link@\x7d")
  body := some (.string "\x7b@copy@\x7d")
  layer := {
    headers := [("X-Link", "\x7b@link@\x7d")]
    env := [("copy", .string "\x7b@link@\x7d")]
    preconditions := []
    extractors := [⟨.extraction, "text", .string "\x7b@link@\x7d", false, "forward"⟩]
    assertions := [⟨.assertion, "text", .string "\x7b@link@\x7d", false, "forward"⟩] }

/-- The value of this variable looks like a redirect, and so will the body of the response. -/
def linked : World Replay :=
  (World.start .empty ⟨[.ok ⟨200, "OK", [], "@secret.txt".toUTF8⟩], []⟩).bind "link"
    (.string "@secret.txt")

/-- A disk with a file that must not be read. -/
def secretDisk : Disk :=
  Disk.empty.put ("secret.txt" :: Disk.home) (.file "secret".toUTF8)

/-- The value is sent, stored and compared as it is, whether the file is there or not. -/
theorem run_onDisk_forwarding :
    Replay.caller.registry = .standard ∧ forwarding.IsInline
    ∧ (Replay.caller.run forwarding linked).2.disk = linked.disk
    ∧ (Replay.caller.run forwarding (linked.onDisk secretDisk)).2.disk = secretDisk
    ∧ (Replay.caller.run forwarding (linked.onDisk secretDisk)).1.isSuccessful = true
    ∧ (Replay.caller.run forwarding (linked.onDisk secretDisk)).2.sent.map Request.body =
        [some "@secret.txt"] := by
  have hinline : forwarding.IsInline := by
    refine ⟨?_, by decide, ?_, ?_, ?_⟩
    · rintro _ _ ⟨⟩
      decide
    · intro name text hmem
      cases List.mem_singleton.1 hmem
      decide
    · rintro _ ⟨⟩
      decide
    · intro stage rule hmem
      cases stage with
      | precondition => cases hmem
      | _ =>
        cases List.mem_singleton.1 hmem
        exact Rule.isInline_of_string rfl (by decide)
  obtain ⟨hrun, hdisk⟩ := run_onDisk (c := Replay.caller) rfl hinline linked secretDisk
  have hsuccess : (Replay.caller.run forwarding linked).1.isSuccessful = true := by decide +kernel
  have hsent : (Replay.caller.run forwarding linked).2.sent.map Request.body =
      [some "@secret.txt"] := by decide +kernel
  rw [hrun]
  exact ⟨rfl, hinline, hdisk, rfl, hsuccess, hsent⟩

-- a text that is written with the sign does name the file
example :
    (Replay.caller.run { forwarding with body := some (.string "@secret.txt") }
      (linked.onDisk secretDisk)).2.sent.map Request.body = [some "secret"] := by
  decide +kernel

end Caller

end RestSuite
