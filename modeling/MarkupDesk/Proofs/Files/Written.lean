/-
`Proofs/Files/Written.lean` -- texts that were written are read.

What a path leads to is decided by the directories on its way and by the entry at its target,
whatever the path looks like. So a text that was written is read by the same path
(`read_of_write`), from then on as long as no directory goes and the target is left alone
(`read_stays`), and where a text is read one can be written (`exists_write`). A directory that was
made is there, and one that is there need not be made.
-/
import MarkupDesk.Proofs.Files.Within

set_option autoImplicit false

namespace MarkupDesk.Files

open MarkupDesk.Task (Ends)

namespace Disk

variable {disk disk' : Disk} {cwd : Location} {path : Path} {t : Text} {content : Content}
  {found : Resolved}

/-! ## 1. Paths and directories -/

/-- Names lead on as before if no directory has gone. -/
theorem follow_mono (hmono : ∀ x, disk.lookup x = some .directory → disk'.lookup x = some .directory)
    {names : List Text} {slash : Bool} {start : Location}
    (h : disk.follow slash start names = .ok found) : disk'.follow slash start names = .ok found := by
  induction names generalizing start with
  | nil => exact h
  | cons first names ih =>
    cases names with
    | nil => exact h
    | cons second names =>
      rw [follow] at h ⊢
      · cases hnext : disk.enter start first with
        | error problem =>
          rw [hnext] at h
          cases h
        | ok next =>
          rw [hnext] at h
          -- the directory that was entered is there on the other disk, too
          rw [enter_mono hmono hnext]
          exact ih h
      · exact List.cons_ne_nil _ _
      · exact List.cons_ne_nil _ _

/-- A path is resolved the same on a disk that has at least the directories of the other. -/
theorem resolve_mono (hmono : ∀ x, disk.lookup x = some .directory → disk'.lookup x = some .directory)
    (h : disk.resolve cwd path = .ok found) : disk'.resolve cwd path = .ok found := by
  unfold resolve at h ⊢
  split at h
  · cases h
  next hnul =>
    rw [if_neg hnul]
    split at h
    · cases h
    next hempty =>
      rw [if_neg hempty]
      split at h
      · cases h
      next hlong =>
        rw [if_neg hlong]
        exact follow_mono hmono h

/-- A directory that a path leads to. -/
theorem isDirectory_iff : disk.isDirectory cwd path = true ↔
    ∃ found, disk.resolve cwd path = .ok found ∧
      ∀ name, found.last = .name name → disk.lookup (found.parent ++ [name]) = some .directory := by
  unfold isDirectory stat
  cases hfound : disk.resolve cwd path with
  | error problem => simp [bind, Except.bind]
  | ok found =>
    simp only [bind, Except.bind, Except.ok.injEq, exists_eq_left']
    cases hlast : found.last with
    | directory => simp
    | name name =>
      cases hentry : disk.lookup (found.parent ++ [name]) with
      | none => simp [hentry]
      | some entry =>
        cases entry with
        | directory => simp [hentry]
        -- a file fails with either spelling: the slash behind it is an error, without it the answer
        -- is no
        | file other => cases hslash : found.slashBehind <;> simp [hentry]

/-- A path that leads to a directory does so as long as no directory goes. -/
theorem isDirectory_mono
    (hmono : ∀ x, disk.lookup x = some .directory → disk'.lookup x = some .directory)
    (h : disk.isDirectory cwd path = true) : disk'.isDirectory cwd path = true := by
  obtain ⟨found, hfound, hentry⟩ := isDirectory_iff.1 h
  exact isDirectory_iff.2 ⟨found, resolve_mono hmono hfound, fun name hlast =>
    hmono _ (hentry name hlast)⟩

/-! ## 2. Files -/

/-- An entry is found at a path exactly if the system tells of it. -/
theorem entry?_eq_some_iff {entry : Entry} :
    disk.entry? cwd path = some entry ↔ disk.stat cwd path = .ok entry := by
  unfold entry?
  cases disk.stat cwd path <;> simp [Except.toOption]

/-- The file that a path leads to: its names are followed to a last one, with no slash behind
it, and the entry there is the file. With a slash at the end a file is never found. -/
theorem entry?_file_iff : disk.entry? cwd path = some (.file content) ↔
    ∃ parent name, disk.resolve cwd path = .ok ⟨parent, .name name, false⟩ ∧
      disk.lookup (parent ++ [name]) = some (.file content) := by
  rw [entry?_eq_some_iff, stat]
  cases hfound : disk.resolve cwd path with
  | error problem => simp [bind, Except.bind]
  | ok found =>
    obtain ⟨parent, last, slash⟩ := found
    cases last with
    | directory => simp [bind, Except.bind]
    | name name =>
      cases hentry : disk.lookup (parent ++ [name]) with
      | none => simp [bind, Except.bind, hentry]
      | some entry =>
        cases entry with
        | directory => simp [bind, Except.bind, hentry]
        | file other =>
          -- a slash behind the name asks for a directory
          cases slash with
          | true => simp [bind, Except.bind, hentry]
          | false =>
            simp only [bind, Except.bind, hentry, Bool.false_eq_true, if_false, Except.ok.injEq]
            constructor
            · intro hsame
              exact ⟨parent, name, rfl, by rw [hentry, hsame]⟩
            · rintro ⟨_, _, hsame, hthere⟩
              cases hsame
              exact Option.some.inj (hentry.symm.trans hthere)

/-- A text is read from the file that a path leads to. -/
theorem read_eq_ok_iff : disk.read cwd path = .ok t ↔
    ∃ parent name, disk.resolve cwd path = .ok ⟨parent, .name name, false⟩ ∧
      disk.lookup (parent ++ [name]) = some (.file (.text t)) := by
  rw [← entry?_file_iff, entry?_eq_some_iff, read]
  cases disk.stat cwd path with
  | error problem => simp [bind, Except.bind]
  | ok entry =>
    cases entry with
    | directory => simp [bind, Except.bind]
    | file content => cases content <;> simp [bind, Except.bind]

/-- **A text is still read** where no directory has gone and the target is what it was. -/
theorem read_stays (hmono : ∀ x, disk.lookup x = some .directory → disk'.lookup x = some .directory)
    (htarget : disk'.lookup (target cwd path) = disk.lookup (target cwd path))
    (h : disk.read cwd path = .ok t) : disk'.read cwd path = .ok t := by
  obtain ⟨parent, name, hfound, hentry⟩ := read_eq_ok_iff.1 h
  rw [← resolve_ok hfound rfl] at htarget
  exact read_eq_ok_iff.2 ⟨parent, name, resolve_mono hmono hfound, htarget.trans hentry⟩

/-- A file is written where a path leads to a name. -/
theorem exists_found_of_write {content : Content} (h : disk.write cwd path content = .ok disk') :
    ∃ parent name, disk.resolve cwd path = .ok ⟨parent, .name name, false⟩ := by
  simp only [write, bind, Except.bind] at h
  cases hfound : disk.resolve cwd path with
  | error problem =>
    rw [hfound] at h
    cases h
  | ok found =>
    rw [hfound] at h
    obtain ⟨parent, last, slash⟩ := found
    cases last with
    | directory => cases h
    | name name =>
      cases slash with
      | true => cases h
      | false => exact ⟨parent, name, rfl⟩

/-- **A text that was written is read.** -/
theorem read_of_write (h : disk.write cwd path (.text t) = .ok disk') : disk'.read cwd path = .ok t := by
  obtain ⟨hne, hnot, hset⟩ := write_ok h
  obtain ⟨parent, name, hfound⟩ := exists_found_of_write h
  -- no directory goes, since there was none at the target
  have hmono : ∀ x, disk.lookup x = some .directory → disk'.lookup x = some .directory := by
    intro x hx
    rw [hset, lookup_set_of_ne, hx]
    rintro rfl
    exact hnot hx
  refine read_eq_ok_iff.2 ⟨parent, name, resolve_mono hmono hfound, ?_⟩
  rw [resolve_ok hfound rfl, hset, lookup_set_self hne]

/-- **Where a text is read** another one can be written. -/
theorem exists_write (h : disk.read cwd path = .ok t) (content : Content) :
    ∃ disk', disk.write cwd path content = .ok disk' := by
  obtain ⟨parent, name, hfound, hentry⟩ := read_eq_ok_iff.1 h
  refine ⟨disk.set (parent ++ [name]) (.file content), ?_⟩
  simp [write, hfound, hentry, bind, Except.bind]

/-- Whether a file can be written does not depend on what is written. -/
theorem exists_write_of_write (h : disk.write cwd path content = .ok disk') (other : Content) :
    ∃ disk'', disk.write cwd path other = .ok disk'' := by
  obtain ⟨-, hnot, -⟩ := write_ok h
  obtain ⟨parent, name, hfound⟩ := exists_found_of_write h
  rw [← resolve_ok hfound rfl] at hnot
  -- as no directory stands there, the file is set
  refine ⟨disk.set (parent ++ [name]) (.file other), ?_⟩
  simp [write, hfound, bind, Except.bind]

/-- A directory that was made is there. -/
theorem isDirectory_of_makeDirectory (h : disk.makeDirectory cwd path = .ok disk') :
    disk'.isDirectory cwd path = true := by
  simp only [makeDirectory, bind, Except.bind] at h
  cases hfound : disk.resolve cwd path with
  | error problem =>
    rw [hfound] at h
    cases h
  | ok found =>
    rw [hfound] at h
    cases hlast : found.last with
    | directory =>
      simp only [hlast] at h
      cases h
    | name name =>
      simp only [hlast] at h
      cases hentry : disk.lookup (found.parent ++ [name]) with
      | some entry =>
        rw [hentry] at h
        cases h
      | none =>
        rw [hentry] at h
        obtain rfl := Except.ok.inj h
        -- the path leads where it led, and there the directory is now
        have hgrown := grown_set (location_ne_nil found.parent name) hentry
        refine isDirectory_iff.2 ⟨found, resolve_mono (fun x hx => hgrown.directory hx) hfound, ?_⟩
        intro other hother
        obtain rfl := LastStep.name.inj (hlast.symm.trans hother)
        exact lookup_set_self (location_ne_nil _ _) _ _

end Disk

/-! ## 3. Making directories -/

variable {s after : Session} {path : Path}

/-- The directory is there; the empty path names none. -/
def HasDirectory (s : Session) (path : Path) : Prop :=
  path = [] ∨ s.disk.isDirectory s.cwd path = true

/-- A directory that was reached is reached as long as no directory goes. -/
theorem HasDirectory.mono (h : HasDirectory s path) (hcwd : after.cwd = s.cwd)
    (hmono : ∀ x, s.disk.lookup x = some .directory → after.disk.lookup x = some .directory) :
    HasDirectory after path := by
  rcases h with hempty | hthere
  · exact .inl hempty
  · refine .inr ?_
    rw [hcwd]
    exact Disk.isDirectory_mono hmono hthere

/-- A directory that was made, or needed not be made, is there. -/
theorem ensureDirectory_there (h : Ends (ensureDirectory path) s (.ok ()) after) :
    after.disk.isDirectory after.cwd path = true := by
  rcases ends_ensureDirectory h with ⟨disk, hmake, -, rfl⟩ | ⟨hthere, -, rfl⟩ | ⟨_, -, -, hno, -⟩
  · exact Disk.isDirectory_of_makeDirectory hmake
  · exact hthere
  · cases hno

/-- **A directory that was asked for is there.** -/
theorem ensureDirectories_there (h : Ends (ensureDirectories path) s (.ok ()) after) :
    HasDirectory after path := by
  obtain ⟨outer, houter⟩ := exists_ancestors path
  rw [ensureDirectories, houter, ensureChain] at h
  by_cases hempty : path.isEmpty = true
  · exact .inl (List.isEmpty_iff.1 hempty)
  · rw [if_neg hempty] at h
    obtain ⟨outcome, between, hfirst, hrest⟩ := Task.ends_attempt_bind.1 h
    refine .inr ?_
    -- it was made at the first try, or at the second one behind those above it
    split at hrest
    · obtain ⟨-, rfl⟩ := Task.ends_pure.1 hrest
      exact ensureDirectory_there hfirst
    · obtain ⟨_, _, -, hlast⟩ := Task.ends_bind_ok.1 hrest
      exact ensureDirectory_there hlast
    · cases (Task.ends_throw.1 hrest).1

/-- **A directory that is there** need not be made. -/
theorem exists_ensureDirectories (h : HasDirectory s path) :
    ∃ after, Ends (ensureDirectories path) s (.ok ()) after := by
  obtain ⟨outer, houter⟩ := exists_ancestors path
  rw [ensureDirectories, houter, ensureChain]
  by_cases hempty : path.isEmpty = true
  · rw [if_pos hempty]
    exact ⟨s, Task.ends_pure.2 ⟨rfl, rfl⟩⟩
  · have hthere : s.disk.isDirectory s.cwd path = true := by
      refine h.resolve_left ?_
      rintro rfl
      exact hempty rfl
    rw [if_neg hempty]
    cases hends : (ensureDirectory path).run.run s with
    | mk outcome after =>
      refine ⟨after, Task.ends_attempt_bind.2 ⟨outcome, after, hends, ?_⟩⟩
      -- a directory that is there is no failure, even if it could not be made
      rcases ends_ensureDirectory hends with ⟨_, -, rfl, -⟩ | ⟨-, rfl, -⟩ | ⟨_, -, hno, -, -⟩
      · exact Task.ends_pure.2 ⟨rfl, rfl⟩
      · exact Task.ends_pure.2 ⟨rfl, rfl⟩
      · rw [hthere] at hno
        cases hno

end MarkupDesk.Files
