/-
`Proofs/Files/Atomic.lean` -- a record is saved as a whole, or not at all.

Saving makes the directories above the file, writes a sibling file and moves it over the target; each
of these can fail, and then the sibling is removed (`writeWhole_cases`). If all goes well, the file
holds the record (`writeThroughSibling_stored`). If something goes wrong, what stood at the path stands
there, because nothing but the sibling was written and no directory has gone (`Kept`). In both cases
no sibling file is left. Only directories may come where nothing was: on a path without `..` they come
before the target, on other paths one may come at the target itself.
-/
import MarkupDesk.Proofs.Files.Ancestor
import Mathlib.Data.List.Induction

set_option autoImplicit false

namespace MarkupDesk.Files

open MarkupDesk.Path (Above NameIn PlainName)
open MarkupDesk.Task (Ends)

namespace Disk

variable {disk disk' : Disk} {cwd start next x y : Location} {directory path : Path} {name : Text}
  {names : List Text} {slash : Bool} {found : Resolved} {content : Content} {entry : Entry}

/-! ## 1. Trees -/

/-- All that is on the disk stands in a directory. -/
def IsTree (disk : Disk) : Prop :=
  ∀ x ∈ Dictionary.keys disk.entries, disk.lookup x.dropLast = some .directory

instance (disk : Disk) : Decidable disk.IsTree := inferInstanceAs (Decidable (∀ x ∈ _, _))

/-- What an entry of a tree is in is a directory. -/
theorem IsTree.parent (h : disk.IsTree) (hx : disk.lookup x = some entry) :
    disk.lookup x.dropLast = some .directory := by
  rw [lookup] at hx
  split at hx
  next hroot =>
    rw [hroot]
    rfl
  next =>
    exact h x (List.mem_map.2 ⟨(x, entry), Dictionary.mem_of_get?_eq_some hx, rfl⟩)

/-- All that is above an entry is a directory. The induction goes up the location, one name
after the other from its end. -/
theorem IsTree.above (h : disk.IsTree) (hx : disk.lookup x = some entry) (hyx : y <+: x)
    (hne : y ≠ x) : disk.lookup y = some .directory := by
  induction x using List.reverseRecOn generalizing entry with
  | nil => exact absurd (List.prefix_nil.1 hyx) hne
  | append_singleton x name ih =>
    have hparent := h.parent hx
    rw [List.dropLast_concat] at hparent
    rcases List.prefix_concat_iff.1 hyx with rfl | hyx
    · exact absurd rfl hne
    · by_cases heq : y = x
      · rw [heq, hparent]
      · exact ih hparent hyx heq

/-! ## 2. What a path leads to -/

/-- A directory is found at a path exactly if the path leads to one. -/
theorem entry?_directory_iff :
    disk.entry? cwd path = some .directory ↔ disk.isDirectory cwd path = true := by
  rw [entry?_eq_some_iff, isDirectory]
  cases disk.stat cwd path with
  | error problem => simp
  | ok entry => cases entry <;> simp

/-- A file that is found at a path stands at the target of the path. -/
theorem file?_of_entry? (h : disk.entry? cwd path = some (.file content)) :
    disk.file? (target cwd path) = some content := by
  obtain ⟨parent, name, hfound, hentry⟩ := entry?_file_iff.1 h
  rw [← resolve_ok hfound rfl]
  exact file?_eq_some.2 hentry

/-- The entry that a path with a file name leads to stands at its target. -/
theorem lookup_of_entry? (hname : NameIn directory path name)
    (h : disk.entry? cwd path = some entry) : disk.lookup (target cwd path) = some entry := by
  cases entry with
  | file content => exact file?_eq_some.1 <| file?_of_entry? h
  | directory =>
    obtain ⟨-, -, location, hreach⟩ := isDirectory_iff_reaches.1 (entry?_directory_iff.1 h)
    rw [← hreach.eq_target]
    -- the name was entered, and behind it there are only dots
    obtain ⟨dots, dots', hpieces, hdots⟩ := hname.pieces
    rw [Reaches, hpieces, walk_append] at hreach
    cases hwalk : disk.walk (startOf cwd path) (Path.pieces directory ++ dots) with
    | error problem =>
      rw [hwalk] at hreach
      cases hreach
    | ok outer =>
      rw [hwalk] at hreach
      simp only [walk] at hreach
      cases henter : disk.enter outer name with
      | error problem =>
        rw [henter] at hreach
        cases hreach
      | ok next =>
        rw [henter] at hreach
        obtain ⟨-, hthere, rfl⟩ := (enter_plain hname.plain outer).1 henter
        rw [walk_ok hreach,
          foldl_stepOf_dots fun dot hdot => hdots dot (List.mem_append_right _ hdot), hthere]

/-- **What stands at a path stays** where no directory has gone and the target is what it was. -/
theorem entry?_stays (hmono : ∀ x, disk.lookup x = some .directory → disk'.lookup x = some .directory)
    (htarget : disk'.lookup (target cwd path) = disk.lookup (target cwd path))
    (h : disk.entry? cwd path = some entry) : disk'.entry? cwd path = some entry := by
  cases entry with
  | directory => exact entry?_directory_iff.2 (isDirectory_mono hmono (entry?_directory_iff.1 h))
  | file content =>
    obtain ⟨parent, name, hfound, hentry⟩ := entry?_file_iff.1 h
    rw [← resolve_ok hfound rfl] at htarget
    exact entry?_file_iff.2 ⟨parent, name, resolve_mono hmono hfound, htarget.trans hentry⟩

/-- A name that is entered on one disk is entered on another one that has the same directory
there. The entry at the next location is all that is asked for. -/
theorem enter_of_next (hnext : disk.lookup next = some .directory → disk'.lookup next = some .directory)
    (h : disk.enter start name = .ok next) : disk'.enter start name = .ok next := by
  unfold enter at h ⊢
  split at h
  next hdot => rwa [if_pos hdot]
  next hdot =>
    rw [if_neg hdot]
    split at h
    next hdots => rwa [if_pos hdots]
    next hdots =>
      rw [if_neg hdots]
      split at h
      · cases h
      next hlong =>
        rw [if_neg hlong]
        cases hentry : disk.lookup (start ++ [name]) with
        | none =>
          rw [hentry] at h
          cases h
        | some entry =>
          rw [hentry] at h
          cases entry with
          | file content => cases h
          -- the only case in which the name was entered and the entry matters
          | directory =>
            obtain rfl := Except.ok.inj h
            rw [hnext hentry]

/-- Names that do not go back ask for the directories on the way to their target only. With a
`..` the way could lead through a directory that is not above the target. -/
theorem follow_of_way (hdots : ['.', '.'] ∉ names)
    (hway : ∀ x, x <+: names.foldl stepOf start → disk.lookup x = some .directory →
      disk'.lookup x = some .directory)
    (h : disk.follow slash start names = .ok found) : disk'.follow slash start names = .ok found := by
  induction names generalizing start with
  | nil => exact h
  | cons first names ih =>
    cases names with
    | nil => exact h
    | cons second names =>
      obtain ⟨-, hrest⟩ := not_or.1 (mt List.mem_cons.2 hdots)
      rw [follow] at h ⊢
      · cases hnext : disk.enter start first with
        | error problem =>
          rw [hnext] at h
          cases h
        | ok next =>
          rw [hnext] at h
          -- the directory that is entered is on the way to the target, as no name behind goes back
          have hstep := enter_ok hnext
          rw [List.foldl_cons, ← hstep] at hway
          rw [enter_of_next (hway next <| foldl_stepOf_prefix hrest) hnext]
          exact ih hrest hway h
      · exact List.cons_ne_nil _ _
      · exact List.cons_ne_nil _ _

/-- **What stands at a path stood there** if the path does not go back and the target is what it was
in a tree: the directories on the way must have been there already. -/
theorem entry?_stood (htree : disk.IsTree) (hname : NameIn directory path name)
    (hdots : ['.', '.'] ∉ Path.pieces path)
    (htarget : disk'.lookup (target cwd path) = disk.lookup (target cwd path))
    (h : disk'.entry? cwd path = some entry) : disk.entry? cwd path = some entry := by
  have hthere : disk.lookup (target cwd path) = some entry := htarget ▸ lookup_of_entry? hname h
  -- what is above an entry of a tree was there before
  have hway : ∀ x, x <+: target cwd path → disk'.lookup x = some .directory →
      disk.lookup x = some .directory := by
    intro x hx hdirectory
    by_cases heq : x = target cwd path
    · rw [heq, ← htarget, ← heq, hdirectory]
    · exact htree.above hthere hx heq
  have hresolve : ∀ {found : Resolved}, disk'.resolve cwd path = .ok found →
      disk.resolve cwd path = .ok found := by
    intro found hfound
    obtain ⟨hne, hsend, hfollow⟩ := resolve_eq_ok_iff.1 hfound
    exact resolve_eq_ok_iff.2 ⟨hne, hsend, follow_of_way hdots hway hfollow⟩
  cases entry with
  | directory =>
    obtain ⟨found, hfound, -⟩ := isDirectory_iff.1 (entry?_directory_iff.1 h)
    refine entry?_directory_iff.2 (isDirectory_iff.2 ⟨found, hresolve hfound, fun name hlast => ?_⟩)
    rw [resolve_ok hfound hlast, hthere]
  | file content =>
    obtain ⟨parent, name, hfound, -⟩ := entry?_file_iff.1 h
    exact entry?_file_iff.2 ⟨parent, name, hresolve hfound, by rw [resolve_ok hfound rfl, hthere]⟩

theorem exists_removeFile (h : disk.entry? cwd path = some (.file content)) :
    ∃ disk', disk.removeFile cwd path = .ok disk' := by
  obtain ⟨parent, name, hfound, hentry⟩ := entry?_file_iff.1 h
  exact ⟨disk.erase (parent ++ [name]), by simp [removeFile, hfound, hentry, bind, Except.bind]⟩

end Disk

/-! ## 3. Steps of saving -/

variable {s after : Session} {directory path : Path} {name t : Text} {result : Except FileError Unit}

/-- The sibling stands beside the target. -/
theorem target_siblingPath (h : NameIn directory path name) (cwd : Location) :
    Disk.target cwd (siblingPath path) = Disk.target cwd directory ++ [siblingName name] := by
  rw [siblingPath_of_nameIn h, Disk.target_join cwd directory (plainName_siblingName h.plain)]

/-- A path and its sibling have different targets, so that neither of the two files gets in
the other's way. -/
theorem target_ne_sibling (h : NameIn directory path name) (cwd : Location) :
    Disk.target cwd path ≠ Disk.target cwd (siblingPath path) := by
  rw [Disk.target_of_nameIn h, target_siblingPath h]
  intro heq
  have hname := List.append_cancel_left heq
  exact siblingName_ne name (List.cons.inj hname).1.symm

/-- Writing changes nothing away from the target, whether it goes well or not. -/
theorem writeText_at (h : Ends (writeText path t) s result after) {x : Location}
    (hx : x ≠ Disk.target s.cwd path) : after.disk.lookup x = s.disk.lookup x := by
  rcases ends_change.1 h with ⟨disk, hwrite, -, rfl⟩ | ⟨_, -, -, rfl⟩
  · obtain ⟨-, -, rfl⟩ := Disk.write_ok hwrite
    exact Disk.lookup_set_of_ne hx _ _
  · rfl

/-- Removing changes nothing away from the target, whether it goes well or not. -/
theorem removeFile_at (h : Ends (removeFile path) s result after) {x : Location}
    (hx : x ≠ Disk.target s.cwd path) : after.disk.lookup x = s.disk.lookup x := by
  rcases ends_change.1 h with ⟨disk, hremove, -, rfl⟩ | ⟨_, -, -, rfl⟩
  · obtain ⟨_, -, rfl⟩ := Disk.removeFile_ok hremove
    exact Disk.lookup_erase_of_ne hx _
  · rfl

/-- Where a file was removed there is none, whether that went well or not. -/
theorem no_file_of_removeFile (h : Ends (removeFile path) s result after) (content : Content) :
    after.disk.entry? after.cwd path ≠ some (.file content) := by
  intro hthere
  rcases ends_change.1 h with ⟨disk, hremove, -, rfl⟩ | ⟨_, hfailed, -, rfl⟩
  · obtain ⟨_, hfile, rfl⟩ := Disk.removeFile_ok hremove
    have hne : Disk.target s.cwd path ≠ [] := by
      intro hroot
      rw [hroot] at hfile
      cases hfile
    have herased := Disk.file?_of_entry? hthere
    rw [Disk.file?_erase_self hne] at herased
    cases herased
  · -- a removal that failed found no file, since a file there can be removed
    obtain ⟨disk, hremove⟩ := Disk.exists_removeFile hthere
    rw [hfailed] at hremove
    cases hremove

/-- **A text that was moved into place** is read, and the sibling is gone. The text is read by
the same path, since neither the writing nor the moving has taken a directory away. -/
theorem writeThroughSibling_stored (hname : NameIn directory path name)
    (h : Ends (writeThroughSibling path t) s (.ok ()) after) :
    after.disk.read after.cwd path = .ok t ∧
      after.disk.file? (Disk.target s.cwd (siblingPath path)) = none := by
  have hapart := target_ne_sibling hname s.cwd
  obtain ⟨_, between, hwrite, hmove⟩ := Task.ends_bind_ok.1 h
  rcases ends_change.1 hwrite with ⟨disk, hwritten, -, rfl⟩ | ⟨_, -, hno, -⟩
  · obtain ⟨hsibling, -, rfl⟩ := Disk.write_ok hwritten
    rcases ends_change.1 hmove with ⟨disk', hmoved, -, rfl⟩ | ⟨_, -, hno, -⟩
    · obtain ⟨content, hfile, ⟨parent, last, hfound⟩, htarget, hfree, ⟨hsame, -⟩ | rfl⟩ :=
        Disk.moveFile_ok hmoved
      · exact absurd hsame.symm hapart
      · -- what was moved is the text, and it was not moved over a directory
        obtain rfl : Content.text t = content := by
          simpa [Disk.file?_set_self hsibling] using hfile
        refine ⟨?_, ?_⟩
        · refine Disk.read_eq_ok_iff.2 ⟨parent, last, Disk.resolve_mono (fun x hx => ?_) hfound, ?_⟩
          · have hnotSibling : x ≠ Disk.target s.cwd (siblingPath path) := by
              rintro rfl
              rw [Disk.file?_eq_some.1 hfile] at hx
              cases hx
            have hnotTarget : x ≠ Disk.target s.cwd path := by
              rintro rfl
              exact hfree hx
            rw [Disk.lookup_set_of_ne hnotTarget, Disk.lookup_erase_of_ne hnotSibling, hx]
          · rw [Disk.resolve_ok hfound rfl, Disk.lookup_set_self htarget]
        · rw [Disk.file?_set_of_ne hapart.symm, Disk.file?_erase_self hsibling]
    · cases hno
  · cases hno

/-- **All that replacing a file can do**: the directories are not made, or the text is moved into
place, or the sibling is removed after it was perhaps written. -/
theorem writeWhole_cases (hparent : Path.parent? path = some directory)
    (h : Ends (writeWhole path t) s result after) :
    (∃ problem, result = .error problem ∧ Ends (ensureDirectories directory) s result after) ∨
    ∃ between, Ends (ensureDirectories directory) s (.ok ()) between ∧
      ((result = .ok () ∧ Ends (writeThroughSibling path t) between (.ok ()) after) ∨
        ∃ problem written outcome outcome', result = .error problem ∧
          Ends (writeText (siblingPath path) t) between outcome written ∧
          Ends (removeFile (siblingPath path)) written outcome' after) := by
  unfold writeWhole at h
  rw [hparent] at h
  rcases Task.ends_bind.1 h with ⟨problem, hmake, rfl⟩ | ⟨_, between, hmake, h⟩
  · exact .inl ⟨problem, rfl, hmake⟩
  refine .inr ⟨between, hmake, ?_⟩
  obtain ⟨outcome, written, hwrite, h⟩ := Task.ends_attempt_bind.1 h
  cases outcome with
  | ok _ =>
    obtain ⟨rfl, rfl⟩ := Task.ends_pure.1 h
    exact .inl ⟨rfl, hwrite⟩
  | error cause =>
    obtain ⟨outcome', removed, hremove, h⟩ := Task.ends_attempt_bind.1 h
    obtain ⟨rfl, rfl⟩ := Task.ends_throw.1 h
    refine .inr ⟨cause, written, ?_⟩
    -- a move that fails leaves what was written
    rcases Task.ends_bind.1 hwrite with ⟨_, hwrite, -⟩ | ⟨_, _, hwrite, hmove⟩
    · exact ⟨_, outcome', rfl, hwrite, hremove⟩
    · rcases ends_change.1 hmove with ⟨_, -, hno, -⟩ | ⟨_, -, -, rfl⟩
      · cases hno
      · exact ⟨_, outcome', rfl, hwrite, hremove⟩

/-! ## 4. Saving -/

/-- The file that the path leads to holds the text, and is loaded as what the text is read as. -/
structure Holds (path : Path) (t : Text) (s : Session) : Prop where
  text : s.disk.read s.cwd path = .ok t
  loaded : ∀ {α : Type} (reader : Json.Reader α) (fallback value : α), reader.run t = .ok value →
    (loadRecord path reader fallback).run s = (value, s)

/-- What stood at the path stands there. Where nothing stood nothing stands, unless the path goes
back by a `..` and a directory was made on the way. -/
structure Kept (path : Path) (s after : Session) : Prop where
  standing : ∀ entry, s.disk.entry? s.cwd path = some entry →
    after.disk.entry? after.cwd path = some entry
  target : after.disk.lookup (Disk.target s.cwd path) = s.disk.lookup (Disk.target s.cwd path) ∨
    (['.', '.'] ∈ Path.pieces path ∧ s.disk.lookup (Disk.target s.cwd path) = none ∧
      after.disk.lookup (Disk.target s.cwd path) = some .directory)
  forward : ['.', '.'] ∉ Path.pieces path →
    after.disk.entry? after.cwd path = s.disk.entry? s.cwd path

/-- A file that is read as the text is loaded as what the text is read as. -/
theorem holds_of_read (h : s.disk.read s.cwd path = .ok t) : Holds path t s := by
  refine ⟨h, fun reader fallback value hread => ?_⟩
  have hvalue : s.disk.readRecord s.cwd path reader fallback = value := by
    simp only [Disk.readRecord, h, decodeOr, hread]
  rw [← hvalue]
  rfl

/-- Only at the sibling and above the path something may be else if replacing a file failed. -/
theorem writeWhole_failed_at (hname : NameIn directory path name) {problem : FileError}
    (h : Ends (writeWhole path t) s (.error problem) after) {x : Location}
    (hx : x ≠ Disk.target s.cwd (siblingPath path)) :
    after.disk.lookup x = s.disk.lookup x ∨ ∃ q, Above q directory ∧ x = Disk.target s.cwd q := by
  rcases writeWhole_cases hname.parent h with ⟨_, -, hmake⟩ | ⟨between, hmake, hrest⟩
  · exact ensureDirectories_at hmake x
  · have hcwd : between.cwd = s.cwd := by rw [(ensureChain_grown hmake).1]
    rcases hrest with ⟨hno, -⟩ | ⟨_, written, _, _, -, hwrite, hremove⟩
    · cases hno
    · have hcwd' : written.cwd = s.cwd := by
        rcases ends_change.1 hwrite with ⟨_, -, -, rfl⟩ | ⟨_, -, -, rfl⟩ <;> exact hcwd
      rw [removeFile_at hremove (hcwd'.symm ▸ hx), writeText_at hwrite (hcwd.symm ▸ hx)]
      exact ensureDirectories_at hmake x

/-- Where replacing a file failed, the file at the target is the one that was there. -/
theorem writeWhole_failed_file? (hname : NameIn directory path name) {problem : FileError}
    (h : Ends (writeWhole path t) s (.error problem) after) :
    after.disk.file? (Disk.target s.cwd path) = s.disk.file? (Disk.target s.cwd path) :=
  ((writeWhole_failed h).files _).resolve_right (target_ne_sibling hname s.cwd)

/-- Entries stay if replacing failed, be they files or directories. -/
theorem writeWhole_failed_stays (hname : NameIn directory path name) {problem : FileError}
    (h : Ends (writeWhole path t) s (.error problem) after) {entry : Entry}
    (hentry : s.disk.lookup (Disk.target s.cwd path) = some entry) :
    after.disk.lookup (Disk.target s.cwd path) = some entry := by
  cases entry with
  | directory => exact (writeWhole_failed h).directories _ hentry
  | file content =>
    exact Disk.file?_eq_some.1 ((writeWhole_failed_file? hname h).trans (Disk.file?_eq_some.2 hentry))

/-- Without a `..` the directories above a file are before the target. -/
theorem dots_of_target_above {q : Path} (hname : NameIn directory path name) (hq : Above q directory)
    {cwd : Location} (h : Disk.target cwd path = Disk.target cwd q) : ['.', '.'] ∈ Path.pieces path := by
  by_contra hdots
  have hinside : ['.', '.'] ∉ Path.pieces directory := by
    obtain ⟨dots, dots', hpieces, -⟩ := hname.pieces
    rw [hpieces, List.append_assoc] at hdots
    exact fun hmem => hdots (List.mem_append_left _ hmem)
  have hlength : (Disk.target cwd q).length ≤ (Disk.target cwd directory).length :=
    (Disk.target_above hq hinside).length_le
  rw [← h, Disk.target_of_nameIn hname, List.length_append] at hlength
  exact absurd hlength (by simp)

/-- Where replacing a file failed, the entry at the target is what it was. The one exception
is a directory that came on the way of a path with a `..`, where nothing was. -/
theorem writeWhole_failed_target (hname : NameIn directory path name) {problem : FileError}
    (h : Ends (writeWhole path t) s (.error problem) after) :
    after.disk.lookup (Disk.target s.cwd path) = s.disk.lookup (Disk.target s.cwd path) ∨
      (['.', '.'] ∈ Path.pieces path ∧ s.disk.lookup (Disk.target s.cwd path) = none ∧
        after.disk.lookup (Disk.target s.cwd path) = some .directory) := by
  cases hbefore : s.disk.lookup (Disk.target s.cwd path) with
  | some entry => exact .inl (writeWhole_failed_stays hname h hbefore)
  | none =>
    rcases writeWhole_failed_at hname h (target_ne_sibling hname s.cwd) with hsame | ⟨q, hq, hmade⟩
    · exact .inl (hsame.trans hbefore)
    · cases hafter : after.disk.lookup (Disk.target s.cwd path) with
      | none => exact .inl rfl
      | some entry =>
        cases entry with
        -- no failing write leaves a file where there was none
        | file content =>
          have hfile := writeWhole_failed_file? hname h
          rw [Disk.file?_eq_some.2 hafter, Disk.file?, hbefore] at hfile
          cases hfile
        | directory => exact .inr ⟨dots_of_target_above hname hq hmade, rfl, rfl⟩

/-- **Where replacing a file failed, what stood at the path is kept.** On the way forward that
is an equality, for which the entry that is found afterwards must have been found before: the
disk is a tree, so no directory that was missing lies above an entry. -/
theorem kept_of_failed (htree : s.disk.IsTree) (hname : NameIn directory path name)
    {problem : FileError} (h : Ends (writeWhole path t) s (.error problem) after) :
    Kept path s after := by
  obtain ⟨hsame, hdirectories, -⟩ := writeWhole_failed h
  have hcwd : after.cwd = s.cwd := by rw [hsame]
  have htarget := writeWhole_failed_target hname h
  have hstanding : ∀ entry, s.disk.entry? s.cwd path = some entry →
      after.disk.entry? after.cwd path = some entry := by
    intro entry hentry
    have hbefore := Disk.lookup_of_entry? hname hentry
    have hafter := writeWhole_failed_stays hname h hbefore
    rw [hcwd]
    exact Disk.entry?_stays hdirectories (hafter.trans hbefore.symm) hentry
  refine ⟨hstanding, htarget, fun hdots => ?_⟩
  cases hbefore : s.disk.entry? s.cwd path with
  | some entry => exact hstanding entry hbefore
  | none =>
    cases hafter : after.disk.entry? after.cwd path with
    | none => rfl
    | some entry =>
      rw [hcwd] at hafter
      -- without a way back no directory has come at the target
      have hunmoved := htarget.resolve_right fun hmade => hdots hmade.1
      rw [Disk.entry?_stood htree hname hdots hunmoved hafter] at hbefore
      cases hbefore

/-- However replacing a file ended, no sibling file is left. -/
theorem no_sibling (hname : NameIn directory path name) (h : Ends (writeWhole path t) s result after)
    (content : Content) : after.disk.entry? after.cwd (siblingPath path) ≠ some (.file content) := by
  intro hthere
  rcases writeWhole_cases hname.parent h with ⟨problem, rfl, hmake⟩ | ⟨between, hmake, hrest⟩
  · -- there is no directory that the sibling could be in
    obtain ⟨hne, hnot⟩ := ensureDirectories_failed hmake
    have hsibling := plainName_siblingName hname.plain
    rw [siblingPath_of_nameIn hname, Disk.entry?_join_iff hsibling] at hthere
    obtain ⟨outer, hreach, hfits, -⟩ := hthere
    rw [Disk.isDirectory_iff_reaches.2 ⟨hne, hfits.sendable hsibling, outer, hreach⟩] at hnot
    cases hnot
  · rcases hrest with ⟨-, hwrite⟩ | ⟨_, written, _, _, -, -, hremove⟩
    · have hcwd : after.cwd = between.cwd :=
        (chains_touches _).cwd ((writeThroughSibling_touches path t).ends rfl hwrite)
      have hfile := Disk.file?_of_entry? hthere
      rw [hcwd, (writeThroughSibling_stored hname hwrite).2] at hfile
      cases hfile
    · exact no_file_of_removeFile hremove content hthere

/-- **A record is saved as a whole or not at all.** Saving ends well, and then the file holds the
record, or with an error, and then what stood at the path stands there; only on a path that goes
back may a directory have come. In both cases no sibling file is left, and no other file holds
anything else than before. -/
theorem saveRecord_atomic (s : Session) (path : Path) (value : Json) (htree : s.disk.IsTree)
    (hname : (Path.fileName? path).isSome = true) :
    ∃ result after, Ends (saveRecord path value) s result after ∧
      ((result = .ok () ∧ Holds path value.pretty after) ∨
        ∃ problem, result = .error problem ∧ Kept path s after) ∧
      (∀ content, after.disk.entry? after.cwd (siblingPath path) ≠ some (.file content)) ∧
      ∀ x, x ≠ Disk.target s.cwd path → x ≠ Disk.target s.cwd (siblingPath path) →
        after.disk.file? x = s.disk.file? x := by
  obtain ⟨name, hname⟩ := Option.isSome_iff_exists.1 hname
  obtain ⟨directory, hname⟩ := Path.exists_nameIn hname
  cases hends : (saveRecord path value).run.run s with
  | mk result after =>
    have hends : Ends (writeWhole path value.pretty) s result after := hends
    refine ⟨result, after, hends, ?_, no_sibling hname hends, fun x hx hx' => ?_⟩
    · cases result with
      | error problem => exact .inr ⟨problem, rfl, kept_of_failed htree hname hends⟩
      | ok _ =>
        refine .inl ⟨rfl, holds_of_read ?_⟩
        -- it ended well, so it was the moving that ended it
        rcases writeWhole_cases hname.parent hends with ⟨_, hno, -⟩ | ⟨between, -, hrest⟩
        · cases hno
        · rcases hrest with ⟨-, hwrite⟩ | ⟨_, _, _, _, hno, -⟩
          · exact (writeThroughSibling_stored hname hwrite).1
          · cases hno
    · refine (((writeWhole_touches path value.pretty).ends rfl hends).files x).resolve_right ?_
      rintro (⟨htarget, -⟩ | hsibling)
      · exact hx htarget
      · exact hx' hsibling

/-- A session with nothing on its disk. -/
def blankSession : Session := ⟨.empty, [], "/config", "/data", none, ⟨0, 0, 0⟩, 0, 0⟩

/-- A record is saved on an empty disk: the directory is made, and the file holds the text. -/
theorem saveRecord_atomic_blank :
    ∃ after, Ends (saveRecord "b/a.json" .null) blankSession (.ok ()) after ∧
      Holds "b/a.json" "null" after := by
  have hok : ((saveRecord "b/a.json" .null).run.run blankSession).1 = .ok () := by rfl
  obtain ⟨result, after, hends, houtcome, -⟩ :=
    saveRecord_atomic blankSession "b/a.json" .null (by decide) (by decide)
  obtain ⟨rfl, -⟩ := Prod.mk.inj (hends.symm.trans (Prod.ext hok rfl))
  rcases houtcome with ⟨-, hholds⟩ | ⟨_, hno, -⟩
  · exact ⟨after, hends, hholds⟩
  · cases hno

/-- Nothing stands at the path, saving fails, and behind it a directory stands there: the one that
was made to take the path back from. -/
theorem saveRecord_leaves_directory :
    blankSession.disk.IsTree ∧ (Path.fileName? "a/../a").isSome = true ∧
      blankSession.disk.entry? blankSession.cwd "a/../a" = none ∧
      ∃ after, Ends (saveRecord "a/../a" .null) blankSession (.error .isDirectory) after ∧
        after.disk.entry? after.cwd "a/../a" = some .directory :=
  ⟨by decide, by decide, by decide, _, rfl, by decide⟩

end MarkupDesk.Files
