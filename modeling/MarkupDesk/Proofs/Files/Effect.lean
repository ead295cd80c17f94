/-
`Proofs/Files/Effect.lean` -- the files that operations may change.

An operation `Touches` certain files: however it ends, the others hold what they held, no
directory has gone, and nothing but the disk of the session has changed. Replacing a file as a
whole touches the file, which holds the new text if it has changed at all, and its sibling.
-/
import MarkupDesk.Page
import MarkupDesk.Proofs.Effect
import MarkupDesk.Proofs.Files.Access
import MarkupDesk.Proofs.Files.Target
import MarkupDesk.Settings.File

set_option autoImplicit false

namespace MarkupDesk.Files

open MarkupDesk.Path (PlainName)
open MarkupDesk.Task (Does Ends)

/-! ## 1. Touching files -/

/-- Only files have changed of which `may` says so, with what they hold now. -/
structure Touches (may : Location → Option Content → Prop) (s after : Session) : Prop where
  same : OnlyDisk s after
  directories : ∀ x, s.disk.lookup x = some .directory → after.disk.lookup x = some .directory
  files : ∀ x, after.disk.file? x = s.disk.file? x ∨ may x (after.disk.file? x)

variable {may : Location → Option Content → Prop} {s after : Session} {cwd : Location}
  {base path : Path} {component name t : Text}

/-- Touching chains: it is reflexive and transitive and keeps the working directory. So a
composed operation touches what its parts touch. -/
theorem chains_touches (may : Location → Option Content → Prop) : Chains (Touches may) where
  refl _ := ⟨rfl, fun _ hx => hx, fun _ => .inl rfl⟩
  trans {s between after} h h' := by
    refine ⟨chains_onlyDisk.trans h.same h'.same, fun x hx => h'.directories x (h.directories x hx),
      fun x => ?_⟩
    rcases h'.files x with hsame | hmay
    · rw [hsame]
      exact h.files x
    · exact .inr hmay
  cwd h := by rw [h.same]

theorem touches_of_grown (h : GrownSession s after) : Touches may s after := by
  refine ⟨h.1, fun x hx => h.2.directory hx, fun x => .inl ?_⟩
  rcases h.2 x with hsame | ⟨hnone, hdirectory⟩
  · exact Disk.file?_congr hsame
  · rw [Disk.file?, Disk.file?, hnone, hdirectory]

/-! ## 2. Single operations -/

/-- Setting a file where no directory stands touches that file. -/
theorem touches_set {x : Location} {content : Content} (hx : x ≠ [])
    (hdirectory : s.disk.lookup x ≠ some .directory) (hmay : may x (some content)) :
    Touches may s { s with disk := s.disk.set x (.file content) } := by
  refine ⟨rfl, fun y hy => ?_, fun y => ?_⟩
  · have hne : y ≠ x := by
      rintro rfl
      exact hdirectory hy
    exact (Disk.lookup_set_of_ne hne _ _).trans hy
  · by_cases hy : y = x
    · subst hy
      exact .inr ((Disk.file?_set_self hx s.disk content).symm ▸ hmay)
    · exact .inl (Disk.file?_set_of_ne hy _ _)

/-- Erasing a file touches that file. -/
theorem touches_erase {x : Location} {content : Content} (hx : s.disk.file? x = some content)
    (hmay : may x none) : Touches may s { s with disk := s.disk.erase x } := by
  have hfile := Disk.file?_eq_some.1 hx
  have hne : x ≠ [] := by
    rintro rfl
    cases hfile
  refine ⟨rfl, fun y hy => ?_, fun y => ?_⟩
  · -- a directory stays: what was erased was a file
    have hother : y ≠ x := by
      rintro rfl
      rw [hfile] at hy
      cases hy
    exact (Disk.lookup_erase_of_ne hother _).trans hy
  · by_cases hy : y = x
    · subst hy
      exact .inr ((Disk.file?_erase_self hne s.disk).symm ▸ hmay)
    · exact .inl (Disk.file?_erase_of_ne hy _)

/-- Making directories touches no file, whatever may be touched. -/
theorem ensureDirectories_touches (path : Path) : (ensureDirectories path).Does cwd (Touches may) :=
  fun _ _ _ _ hends => touches_of_grown (ensureChain_grown hends)

/-- Writing touches the file of its path, which may then hold the text. -/
theorem writeText_touches (hmay : may (Disk.target cwd path) (some (.text t))) :
    (writeText path t).Does cwd (Touches may) := by
  intro s result after hcwd hends
  rcases ends_change.1 hends with ⟨disk, hwrite, -, rfl⟩ | ⟨problem, -, -, rfl⟩
  · rw [hcwd] at hwrite
    obtain ⟨hne, hdirectory, rfl⟩ := Disk.write_ok hwrite
    exact touches_set hne hdirectory hmay
  · exact (chains_touches may).refl _

/-- Removing touches the file of its path, which may then be gone. -/
theorem removeFile_touches (hmay : may (Disk.target cwd path) none) :
    (removeFile path).Does cwd (Touches may) := by
  intro s result after hcwd hends
  rcases ends_change.1 hends with ⟨disk, hremove, -, rfl⟩ | ⟨problem, -, -, rfl⟩
  · rw [hcwd] at hremove
    obtain ⟨content, hfile, rfl⟩ := Disk.removeFile_ok hremove
    exact touches_erase hfile hmay
  · exact (chains_touches may).refl _

/-- Removing a file that need not be there touches nothing but this file. -/
theorem removeIfPresent_touches (hmay : may (Disk.target cwd path) none) :
    (removeIfPresent path).Does cwd (Touches may) := by
  have hchains := chains_touches may
  refine Task.does_bind hchains (Task.does_attempt (removeFile_touches hmay)) fun outcome => ?_
  match outcome with
  | .ok _ => exact Task.does_pure hchains _
  | .error problem =>
    cases problem with
    | notFound => exact Task.does_pure hchains _
    | _ => exact Task.does_throw hchains _

/-! ## 3. Replacing a file -/

/-- The file may hold the text, and the sibling of the file anything. -/
def Replaced (cwd : Location) (path : Path) (t : Text) (x : Location) (content : Option Content) :
    Prop :=
  (x = Disk.target cwd path ∧ content = some (.text t)) ∨ x = Disk.target cwd (siblingPath path)

/-- Writing through the sibling replaces the file. If the writing fails, only the sibling is
touched; if the moving fails, too; and what is moved is the text that was just written. -/
theorem writeThroughSibling_touches (path : Path) (t : Text) :
    (writeThroughSibling path t).Does cwd (Touches (Replaced cwd path t)) := by
  have hchains := chains_touches (Replaced cwd path t)
  intro s result after hcwd hends
  unfold writeThroughSibling at hends
  rcases Task.ends_bind.1 hends with ⟨problem, hwrite, -⟩ | ⟨_, between, hwrite, hmove⟩
  · exact (writeText_touches (.inr rfl)).ends hcwd hwrite
  have hfirst : Touches (Replaced cwd path t) s between :=
    (writeText_touches (.inr rfl)).ends hcwd hwrite
  refine hchains.trans hfirst ?_
  have hcwd' : between.cwd = cwd := (hchains.cwd hfirst).trans hcwd
  rcases ends_change.1 hmove with ⟨disk, hdisk, -, rfl⟩ | ⟨problem, -, -, rfl⟩
  · rw [hcwd'] at hdisk
    obtain ⟨content, hfile, -, hne, hdirectory, ⟨-, hsame⟩ | hmoved⟩ := Disk.moveFile_ok hdisk
    · subst hsame
      exact hchains.refl _
    · -- what is moved is the text that was just written
      have hcontent : content = .text t := by
        rcases ends_change.1 hwrite with ⟨disk', hset, -, rfl⟩ | ⟨_, -, hproblem, -⟩
        · rw [hcwd] at hset
          obtain ⟨hsibling, -, rfl⟩ := Disk.write_ok hset
          rw [Disk.file?_set_self hsibling] at hfile
          exact (Option.some.inj hfile).symm
        · cases hproblem
      subst hcontent hmoved
      refine hchains.trans (touches_erase hfile (.inr rfl)) ?_
      refine touches_set hne (fun hlookup => hdirectory ?_) (.inl ⟨rfl, rfl⟩)
      -- the target is looked up behind the sibling's removal, where the two could be one
      by_cases heq : Disk.target cwd path = Disk.target cwd (siblingPath path)
      · have herased := Disk.file?_eq_some.1 hfile
        rw [heq] at hlookup hne
        exact absurd ((Disk.lookup_erase_self hne _).symm.trans hlookup) (by simp)
      · exact (Disk.lookup_erase_of_ne heq _).symm.trans hlookup
  · exact hchains.refl _

/-- What is done once the text was moved into place, or was not. -/
theorem outcome_touches (path : Path) (t : Text) (outcome : Except FileError Unit) :
    (match outcome with
      | .ok _ => return
      | .error problem => do
        let _ ← (Task.attempt (removeFile (siblingPath path)) : Task FileError (Except FileError Unit))
        throw problem : Task FileError Unit).Does cwd (Touches (Replaced cwd path t)) := by
  have hchains := chains_touches (Replaced cwd path t)
  cases outcome with
  | ok _ => exact Task.does_pure hchains _
  | error problem =>
    refine Task.does_bind hchains (Task.does_attempt (removeFile_touches (.inr rfl))) fun _ => ?_
    exact Task.does_throw hchains problem

/-- **Replacing a file**, well or not, touches the file and its sibling. -/
theorem writeWhole_touches (path : Path) (t : Text) :
    (writeWhole path t).Does cwd (Touches (Replaced cwd path t)) := by
  have hchains := chains_touches (Replaced cwd path t)
  have hwritten := Task.does_bind hchains
    (Task.does_attempt (writeThroughSibling_touches path t)) (outcome_touches path t)
  unfold writeWhole
  cases Path.parent? path with
  | none => exact hwritten
  | some directory =>
    exact Task.does_bind hchains (ensureDirectories_touches directory) fun _ => hwritten

/-! ## 4. Operations that fail -/

theorem writeThroughSibling_failed {problem : FileError}
    (h : Ends (writeThroughSibling path t) s (.error problem) after) :
    Touches (fun x _ => x = Disk.target s.cwd (siblingPath path)) s after := by
  unfold writeThroughSibling at h
  rcases Task.ends_bind.1 h with ⟨_, hwrite, -⟩ | ⟨_, between, hwrite, hmove⟩
  · exact (writeText_touches rfl).ends rfl hwrite
  · rcases ends_change.1 hmove with ⟨_, -, hresult, -⟩ | ⟨_, -, -, rfl⟩
    · cases hresult
    · exact (writeText_touches rfl).ends rfl hwrite

/-- **A file that could not be replaced** is what it was. -/
theorem writeWhole_failed {problem : FileError} (h : Ends (writeWhole path t) s (.error problem) after) :
    Touches (fun x _ => x = Disk.target s.cwd (siblingPath path)) s after := by
  have hchains := chains_touches fun x _ => x = Disk.target s.cwd (siblingPath path)
  -- what follows the directories, whether there were any to be made
  have hattempt : ∀ {between : Session}, between.cwd = s.cwd → Ends (do
      match ← (Task.attempt (writeThroughSibling path t) : Task FileError (Except FileError Unit)) with
      | .ok _ => return
      | .error problem =>
        let _ ← (Task.attempt (removeFile (siblingPath path)) : Task FileError (Except FileError Unit))
        throw problem) between (.error problem) after →
      Touches (fun x _ => x = Disk.target s.cwd (siblingPath path)) between after := by
    intro between hcwd h
    obtain ⟨outcome, failed, hwrite, h⟩ := Task.ends_attempt_bind.1 h
    cases outcome with
    | ok _ => cases (Task.ends_pure.1 h).1
    | error cause =>
      -- writing failed at the sibling or moved nothing, and then the sibling is removed
      have hfailed := writeThroughSibling_failed hwrite
      rw [hcwd] at hfailed
      obtain ⟨_, removed, hremove, h⟩ := Task.ends_attempt_bind.1 h
      obtain ⟨-, rfl⟩ := Task.ends_throw.1 h
      have hcwd' : failed.cwd = s.cwd := (hchains.cwd hfailed).trans hcwd
      exact hchains.trans hfailed ((removeFile_touches rfl).ends hcwd' hremove)
  unfold writeWhole at h
  cases hparent : Path.parent? path with
  | none =>
    rw [hparent] at h
    exact hattempt rfl h
  | some directory =>
    rw [hparent] at h
    rcases Task.ends_bind.1 h with ⟨_, hmake, -⟩ | ⟨_, between, hmake, h⟩
    · exact (ensureDirectories_touches directory).ends rfl hmake
    · have hmade : Touches (fun x _ => x = Disk.target s.cwd (siblingPath path)) s between :=
        (ensureDirectories_touches directory).ends rfl hmake
      exact hchains.trans hmade (hattempt (hchains.cwd hmade) h)

/-- A file that could not be removed is what it was. -/
theorem removeIfPresent_failed {problem : FileError}
    (h : Ends (removeIfPresent path) s (.error problem) after) : after = s := by
  unfold removeIfPresent at h
  obtain ⟨outcome, between, hremove, hrest⟩ := Task.ends_attempt_bind.1 h
  rcases ends_change.1 hremove with ⟨_, -, rfl, -⟩ | ⟨_, -, -, rfl⟩
  · cases (Task.ends_pure.1 hrest).1
  · split at hrest
    · cases (Task.ends_pure.1 hrest).1
    · cases (Task.ends_pure.1 hrest).1
    · exact (Task.ends_throw.1 hrest).2

end MarkupDesk.Files
