import RestSuite.Disk.Basic
import RestSuite.Proofs.Sequencing

/-!
# Reading what was written

A file is written where its path leads, and a path is followed through directories only. So a file that
is new or has new content stands in no other path's way, and its own path still leads to it.

* **`Disk.get?_put`** — what stands where after an entry was put.
* **`Disk.walk_put`** — the way through directories does not change when a file is put.
* **`Disk.readText_writeText`** — a path that was written to has the text that was written.
-/

namespace RestSuite.Disk

variable {d d' : Disk} {place dir final : Location} {path text : String} {content : ByteArray}

theorem get?_put (d : Disk) (place : Location) (e : Entry) (other : Location) :
    (d.put place e).get? other = if other = place then some e else d.get? other := by
  have hrest : other ≠ place → ∀ entries : List (Location × Entry),
      (entries.filter fun entry => entry.1 != place).lookup other = entries.lookup other := by
    intro hne entries
    induction entries with
    | nil => rfl
    | cons entry rest ih =>
      obtain ⟨at', e'⟩ := entry
      by_cases hat : at' = place
      · -- the entry that is taken out is not the one that is looked for
        have hother : (other == at') = false := by simpa [hat] using hne
        rw [List.filter_cons_of_neg (by simp [hat]), ih, List.lookup_cons, hother]
      · rw [List.filter_cons_of_pos (by simp [hat]), List.lookup_cons, List.lookup_cons, ih]
  unfold get? put
  dsimp only
  rw [List.lookup_cons]
  by_cases hother : other = place
  · simp [hother]
  · have hne : (other == place) = false := by simpa using hother
    rw [hne, if_neg hother]
    exact hrest hother d.entries

/-! ## Ways through directories -/

theorem enter_put {name : String} (hfile : d.get? place ≠ some .directory)
    (h : d.enter dir name = .ok final) :
    (d.put place (.file content)).enter dir name = .ok final := by
  unfold enter at h ⊢
  split_ifs at h ⊢ with hhere hup
  · exact h
  · exact h
  · obtain ⟨next, hchild, hnext⟩ := bind_eq_ok_iff.1 h
    refine bind_eq_ok_iff.2 ⟨next, hchild, ?_⟩
    have hdirectory : d.get? next = some .directory := by
      split at hnext
      · next heq => exact heq
      · cases hnext
      · cases hnext
    have hne : next ≠ place := by
      rintro rfl
      exact hfile hdirectory
    rw [get?_put, if_neg hne]
    exact hnext

/-- A file that is put where no directory stands is in nobody's way. Induction on the names. -/
theorem walk_put {names : List String} (hfile : d.get? place ≠ some .directory)
    (h : d.walk dir names = .ok final) :
    (d.put place (.file content)).walk dir names = .ok final := by
  induction names generalizing dir with
  | nil => exact h
  | cons name more ih =>
    obtain ⟨next, henter, hmore⟩ := bind_eq_ok_iff.1 h
    exact bind_eq_ok_iff.2 ⟨next, enter_put hfile henter, ih hmore⟩

/-! ## Where a file is written -/

/-- The names of a path that can be written to: the directories, and the name of the file in the last of
them. -/
theorem target_eq_ok (h : d.target path = .ok place) :
    ∃ last before dir, checkPath path = .ok () ∧ namesReversed path = last :: before
      ∧ d.walk (start path) before.reverse = .ok dir ∧ isDots last = false
      ∧ child dir last = .ok place ∧ d.get? place ≠ some .directory := by
  obtain ⟨_, hcheck, h⟩ := bind_eq_ok_iff.1 h
  dsimp only at h
  split at h
  · cases h
  · next last before hnames =>
    obtain ⟨dir, hwalk, h⟩ := bind_eq_ok_iff.1 h
    split_ifs at h with hdots
    obtain ⟨hslash, hlast⟩ := not_or.1 hdots
    obtain ⟨at', hchild, h⟩ := bind_eq_ok_iff.1 h
    have hplace : d.get? at' ≠ some .directory ∧ at' = place := by
      split at h
      · cases h
      · next hne => cases h; exact ⟨hne, rfl⟩
    obtain ⟨hfile, rfl⟩ := hplace
    -- without a slash at its end the path has no empty names there
    have hsame : namesReversed path = last :: before := by
      rw [← hnames]
      cases hreversed : namesReversed path with
      | nil => rfl
      | cons first rest =>
        rw [hreversed] at hslash
        rw [List.dropWhile_cons_of_neg (by simpa using hslash)]
    exact ⟨last, before, dir, hcheck, hsame, hwalk, by simpa using hlast, hchild, hfile⟩

theorem readBytes_put (h : d.target path = .ok place) :
    (d.put place (.file content)).readBytes path = .ok content := by
  obtain ⟨last, before, dir, hcheck, hnames, hwalk, hlast, hchild, hfile⟩ := target_eq_ok h
  unfold readBytes
  rw [hcheck, hnames]
  simp only [ok_bind, walk_put hfile hwalk, hlast, hchild, get?_put]
  simp

/-- **Reading a path that was written to gives the text that was written.** -/
theorem readText_writeText (h : d.writeText path text = .ok d') : d'.readText path = .ok text := by
  obtain ⟨place, htarget, heq⟩ := bind_eq_ok_iff.1 h
  cases heq
  unfold readText
  rw [readBytes_put htarget, ok_bind, Text.ofUtf8?_toUTF8]

end RestSuite.Disk
