/-
`Proofs/Files/Access.lean` -- what writing a whole file leaves behind.

Writing makes directories, writes a sibling file and moves it over the target. If it ends
well, then nothing else has changed but that directories may have come (`Grown`): the
target holds the text and the sibling is gone (`writeWhole_ok`). Where the directory was
reached before no directory comes at all, so all other files are what they were.
-/
import MarkupDesk.Files.Record
import MarkupDesk.Proofs.Files.Reach
import MarkupDesk.Proofs.Task

set_option autoImplicit false

namespace MarkupDesk.Files

open MarkupDesk.Path (PlainName)
open MarkupDesk.Task (Ends)

/-! ## 1. Single operations -/

variable {s after : Session} {base : Path} {component name t : Text}

/-- A change of the disk is made, or it is refused and the session is what it was. There is no
third way: nothing is ever changed in part. -/
theorem ends_change {act : Disk → Location → Except FileError Disk} {result : Except FileError Unit} :
    Ends (change act) s result after ↔
      (∃ disk, act s.disk s.cwd = .ok disk ∧ result = .ok () ∧ after = { s with disk := disk }) ∨
        ∃ problem, act s.disk s.cwd = .error problem ∧ result = .error problem ∧ after = s := by
  unfold change
  rw [Task.ends_get_bind, Task.ends_bind]
  constructor
  · rintro (⟨problem, hact, rfl⟩ | ⟨disk, between, hact, hset⟩)
    · obtain ⟨hact, rfl⟩ := Task.ends_ofExcept.1 hact
      exact .inr ⟨problem, hact.symm, rfl, rfl⟩
    · obtain ⟨hact, rfl⟩ := Task.ends_ofExcept.1 hact
      -- the new disk is set only after the change was granted
      obtain ⟨rfl, rfl⟩ := Task.ends_set.1 hset
      exact .inl ⟨disk, hact.symm, rfl, rfl⟩
  · rintro (⟨disk, hact, rfl, rfl⟩ | ⟨problem, hact, rfl, rfl⟩)
    · exact .inr ⟨disk, s, Task.ends_ofExcept.2 ⟨hact.symm, rfl⟩, Task.ends_set.2 ⟨rfl, rfl⟩⟩
    · exact .inl ⟨problem, Task.ends_ofExcept.2 ⟨hact.symm, rfl⟩, rfl⟩

/-- The second disk has the entries of the first one and perhaps more directories. -/
def Grown (disk disk' : Disk) : Prop :=
  ∀ x, disk'.lookup x = disk.lookup x ∨ (disk.lookup x = none ∧ disk'.lookup x = some .directory)

theorem Grown.refl (disk : Disk) : Grown disk disk := fun _ => .inl rfl

/-- Growing in two steps is growing, since a directory that has come stays. -/
theorem Grown.trans {disk disk' disk'' : Disk} (h : Grown disk disk') (h' : Grown disk' disk'') :
    Grown disk disk'' := by
  intro x
  rcases h' x with h' | ⟨hnone', hdir'⟩
  · rw [h']
    exact h x
  · rcases h x with h | ⟨-, hdir⟩
    · exact .inr ⟨h ▸ hnone', hdir'⟩
    · rw [hdir] at hnone'
      cases hnone'

theorem Grown.directory {disk disk' : Disk} (h : Grown disk disk') {x : Location}
    (hx : disk.lookup x = some .directory) : disk'.lookup x = some .directory := by
  rcases h x with h | ⟨hnone, -⟩
  · rw [h, hx]
  · rw [hx] at hnone
    cases hnone

/-- A directory that is set where nothing was lets the disk grow. The root is left out because
it is no entry of the disk: it is always there. -/
theorem grown_set {disk : Disk} {x : Location} (hx : x ≠ []) (hnone : disk.lookup x = none) :
    Grown disk (disk.set x .directory) := by
  intro y
  by_cases hy : y = x
  · subst hy
    exact .inr ⟨hnone, Disk.lookup_set_self hx disk .directory⟩
  · exact .inl (Disk.lookup_set_of_ne hy disk .directory)

/-! ## 2. Making directories -/

/-- The disk of a session has grown, and the session is the same otherwise. -/
def GrownSession (s after : Session) : Prop :=
  after = { s with disk := after.disk } ∧ Grown s.disk after.disk

theorem GrownSession.refl (s : Session) : GrownSession s s := ⟨rfl, Grown.refl s.disk⟩

theorem GrownSession.trans {s between after : Session} (h : GrownSession s between)
    (h' : GrownSession between after) : GrownSession s after := by
  obtain ⟨hsame, hgrown⟩ := h
  obtain ⟨hsame', hgrown'⟩ := h'
  refine ⟨?_, hgrown.trans hgrown'⟩
  rw [hsame', hsame]

/-- What making a directory does: it is made, or it is there, or nothing happens. -/
theorem ends_ensureDirectory {path : Path} {result : Except FileError Unit}
    (h : Ends (ensureDirectory path) s result after) :
    (∃ disk, s.disk.makeDirectory s.cwd path = .ok disk ∧ result = .ok () ∧
        after = { s with disk := disk }) ∨
      (s.disk.isDirectory s.cwd path = true ∧ result = .ok () ∧ after = s) ∨
        ∃ problem, s.disk.makeDirectory s.cwd path = .error problem ∧
          s.disk.isDirectory s.cwd path = false ∧ result = .error problem ∧ after = s := by
  unfold ensureDirectory at h
  obtain ⟨outcome, between, hmake, hrest⟩ := Task.ends_attempt_bind.1 h
  rcases ends_change.1 hmake with ⟨disk, hdisk, rfl, rfl⟩ | ⟨problem, hproblem, rfl, rfl⟩
  · obtain ⟨rfl, rfl⟩ := Task.ends_pure.1 hrest
    exact .inl ⟨disk, hdisk, rfl, rfl⟩
  -- it could not be made, which does not matter where a directory is there
  · have hrest := Task.ends_lift_bind.1 hrest
    change Ends (if between.disk.isDirectory between.cwd path = true then _ else _) between _ _ at hrest
    by_cases hdirectory : between.disk.isDirectory between.cwd path = true
    · rw [if_pos hdirectory] at hrest
      obtain ⟨rfl, rfl⟩ := Task.ends_pure.1 hrest
      exact .inr (.inl ⟨hdirectory, rfl, rfl⟩)
    · rw [if_neg hdirectory] at hrest
      obtain ⟨rfl, rfl⟩ := Task.ends_throw.1 hrest
      exact .inr (.inr ⟨problem, hproblem, by simpa using hdirectory, rfl, rfl⟩)

/-- Making one directory lets the session grow, however it ends. -/
theorem ensureDirectory_grown {path : Path} {result : Except FileError Unit}
    (h : Ends (ensureDirectory path) s result after) : GrownSession s after := by
  rcases ends_ensureDirectory h with ⟨disk, hdisk, -, rfl⟩ | ⟨-, -, rfl⟩ | ⟨_, -, -, -, rfl⟩
  · -- a directory is only made where nothing was
    obtain ⟨x, hx, hnone, rfl⟩ := Disk.makeDirectory_ok hdisk
    exact ⟨rfl, grown_set hx hnone⟩
  · exact GrownSession.refl _
  · exact GrownSession.refl _

/-- **Making directories.** Directories may come, and nothing else changes. The induction is
on the chain, from the path outwards, and holds for every outcome, so that it serves after a
failure, too. -/
theorem ensureChain_grown {paths : List Path} {result : Except FileError Unit}
    (h : Ends (ensureChain paths) s result after) : GrownSession s after := by
  induction paths generalizing s after result with
  | nil =>
    obtain ⟨-, rfl⟩ := Task.ends_throw.1 h
    exact GrownSession.refl _
  | cons path outer ih =>
    unfold ensureChain at h
    by_cases hempty : path.isEmpty = true
    · rw [if_pos hempty] at h
      obtain ⟨-, rfl⟩ := Task.ends_pure.1 h
      exact GrownSession.refl _
    · rw [if_neg hempty] at h
      obtain ⟨outcome, between, hfirst, hrest⟩ := Task.ends_attempt_bind.1 h
      refine (ensureDirectory_grown hfirst).trans ?_
      -- made or there; missing above, so the outer ones are made first; or refused
      split at hrest
      · obtain ⟨-, rfl⟩ := Task.ends_pure.1 hrest
        exact GrownSession.refl _
      · rcases Task.ends_bind.1 hrest with ⟨problem, houter, -⟩ | ⟨_, between', houter, hlast⟩
        · exact ih houter
        · exact (ih houter).trans (ensureDirectory_grown hlast)
      · obtain ⟨-, rfl⟩ := Task.ends_throw.1 hrest
        exact GrownSession.refl _

/-- The chain of a path begins with the path itself, whatever the path is. -/
theorem exists_ancestors (path : Path) : ∃ outer, Path.ancestors path = path :: outer := by
  unfold Path.ancestors
  split
  · exact ⟨[], rfl⟩
  · exact ⟨_, List.cons_append ..⟩

/-- Where the directory above is there, at most one directory is made. The first try then
succeeds or fails for good, and no directory further out is ever asked for. -/
theorem ensureDirectories_of_reaches (hcomponent : PlainName component)
    (hfits : Disk.Fits base component) {parent : Location}
    (hparent : s.disk.Reaches s.cwd base parent)
    (h : Ends (ensureDirectories (Path.join base component)) s (.ok ()) after) :
    after = s ∨ (s.disk.lookup (parent ++ [component]) = none ∧
      after = { s with disk := s.disk.set (parent ++ [component]) .directory }) := by
  obtain ⟨ancestors, hancestors⟩ := exists_ancestors (Path.join base component)
  have hempty : ¬ (Path.join base component).isEmpty = true := by
    simp [Path.join_ne_nil base hcomponent]
  rw [ensureDirectories, hancestors, ensureChain, if_neg hempty] at h
  obtain ⟨outcome, between, hfirst, hrest⟩ := Task.ends_attempt_bind.1 h
  rcases ends_ensureDirectory hfirst with
    ⟨disk, hdisk, rfl, rfl⟩ | ⟨-, rfl, rfl⟩ | ⟨problem, herror, -, rfl, rfl⟩
  · obtain ⟨parent', hparent', -, rfl⟩ := Disk.makeDirectory_join_ok hcomponent hdisk
    obtain rfl := hparent.unique hparent'
    refine .inr ⟨?_, (Task.ends_pure.1 hrest).2⟩
    cases hentry : s.disk.lookup (parent ++ [component]) with
    | none => rfl
    | some entry =>
      rw [Disk.makeDirectory_of_lookup hcomponent hparent hfits hentry] at hdisk
      cases hdisk
  · exact .inl (Task.ends_pure.1 hrest).2
  · -- the directory above is there, so that nothing can be missing
    have hthere : problem ≠ .notFound := by
      rintro rfl
      cases hentry : between.disk.lookup (parent ++ [component]) with
      | none =>
        have hfound := (Disk.resolve_join_iff hcomponent).2 ⟨parent, hparent, hfits, rfl⟩
        simp [Disk.makeDirectory, hfound, hentry, bind, Except.bind] at herror
      | some entry =>
        rw [Disk.makeDirectory_of_lookup hcomponent hparent hfits hentry] at herror
        cases herror
    split at hrest
    next heq => cases heq
    next heq => exact absurd (Except.error.inj heq) hthere
    next => cases (Task.ends_throw.1 hrest).1

/-! ## 3. Replacing a file -/

/-- The disk with the text in a file and nothing at its sibling. -/
def Disk.replaceFile (disk : Disk) (outer : Location) (name t : Text) : Disk :=
  ((disk.set (outer ++ [siblingName name]) (.file (.text t))).erase
    (outer ++ [siblingName name])).set (outer ++ [name]) (.file (.text t))

/-- The sibling has another name than the file, since its name is longer. -/
theorem siblingName_ne (name : Text) : siblingName name ≠ name := by
  intro heq
  have hlength := congrArg List.length heq
  rw [siblingName, List.length_append, List.length_cons] at hlength
  omega

namespace Disk

variable {disk : Disk} {outer : Location}

theorem lookup_replaceFile_self (disk : Disk) (outer : Location) (name t : Text) :
    (disk.replaceFile outer name t).lookup (outer ++ [name]) = some (.file (.text t)) :=
  lookup_set_self (location_ne_nil outer name) _ _

/-- Away from the file and its sibling nothing is changed by replacing the file. -/
theorem lookup_replaceFile_of_ne {x : Location} (hname : x ≠ outer ++ [name])
    (hsibling : x ≠ outer ++ [siblingName name]) :
    (disk.replaceFile outer name t).lookup x = disk.lookup x := by
  rw [replaceFile, lookup_set_of_ne hname, lookup_erase_of_ne hsibling, lookup_set_of_ne hsibling]

/-- No directory goes when a file is replaced, because neither the file nor its sibling was
one. -/
theorem replaceFile_directory (hname : disk.lookup (outer ++ [name]) ≠ some .directory)
    (hsibling : disk.lookup (outer ++ [siblingName name]) ≠ some .directory) {x : Location}
    (hx : disk.lookup x = some .directory) :
    (disk.replaceFile outer name t).lookup x = some .directory := by
  rw [lookup_replaceFile_of_ne, hx]
  · rintro rfl
    exact hname hx
  · rintro rfl
    exact hsibling hx

end Disk

/-- Writing through the sibling replaces the file. -/
theorem writeThroughSibling_ok (hcomponent : PlainName component) (hname : PlainName name)
    (h : Ends (writeThroughSibling (Path.join (Path.join base component) name) t) s (.ok ()) after) :
    ∃ outer, s.disk.Reaches s.cwd (Path.join base component) outer ∧
      Disk.Fits (Path.join base component) name ∧
      s.disk.lookup (outer ++ [name]) ≠ some .directory ∧
      s.disk.lookup (outer ++ [siblingName name]) ≠ some .directory ∧
      after = { s with disk := s.disk.replaceFile outer name t } := by
  have hsibling : PlainName (siblingName name) := plainName_siblingName hname
  unfold writeThroughSibling at h
  rw [siblingPath_join base hcomponent hname] at h
  obtain ⟨_, between, hwrite, hmove⟩ := Task.ends_bind_ok.1 h
  rcases ends_change.1 hwrite with ⟨disk, hdisk, -, rfl⟩ | ⟨_, -, herror, -⟩
  · obtain ⟨outer, hreach, -, hnot, rfl⟩ := Disk.write_join_ok hsibling hdisk
    rcases ends_change.1 hmove with ⟨disk', hdisk', -, rfl⟩ | ⟨_, -, herror, -⟩
    · obtain ⟨outer', content, hreach', hfits, hcontent, htarget, rfl⟩ :=
        Disk.moveFile_join_ok hsibling hname (siblingName_ne name).symm hdisk'
      -- both files are in the directory that the target is in, under different names
      have hne : outer ++ [name] ≠ outer ++ [siblingName name] := by
        simpa using (siblingName_ne name).symm
      -- the sibling file is not written over a directory, so all paths lead where they led
      have hmono : ∀ x, s.disk.lookup x = some .directory →
          (s.disk.set (outer ++ [siblingName name]) (.file (.text t))).lookup x = some .directory := by
        intro x hx
        rw [Disk.lookup_set_of_ne, hx]
        rintro rfl
        exact hnot hx
      obtain rfl : outer = outer' := (hreach.mono hmono).unique hreach'
      rw [Disk.lookup_set_self (Disk.location_ne_nil _ _)] at hcontent
      obtain rfl : Content.text t = content := by simpa using hcontent
      rw [Disk.lookup_set_of_ne hne] at htarget
      exact ⟨outer, hreach, hfits, htarget, hnot, rfl⟩
    · cases herror
  · cases herror

/-- A path that fits has a parent that fits. -/
theorem Disk.Fits.parent {disk : Disk} {cwd outer : Location} (hcomponent : PlainName component)
    (hname : PlainName name) (h : Disk.Fits (Path.join base component) name)
    (hreach : disk.Reaches cwd (Path.join base component) outer) : Disk.Fits base component := by
  obtain ⟨-, -, hlength, -⟩ := (Disk.reaches_join_iff hcomponent).1 hreach
  obtain ⟨hnul, hbytes, -⟩ := h
  have hjoin : Path.join (Path.join base component) name = Path.join base component ++ '/' :: name :=
    Path.join_of_getLast?_ne hname (Path.join_ne_nil base hcomponent)
      (Path.getLast?_join base hcomponent)
  rw [hjoin] at hnul hbytes
  rw [Text.byteLength_append] at hbytes
  refine ⟨fun hmem => hnul (List.mem_append_left _ hmem), ?_, hlength⟩
  omega

/-- **Writing a whole file.** Directories may come, but only the file's own if the one above
is there; then the file is replaced. What the file and its sibling must not have been,
directories, is known afterwards, since the writing would have failed. -/
theorem writeWhole_ok (hcomponent : PlainName component) (hname : PlainName name)
    (h : Ends (writeWhole (Path.join (Path.join base component) name) t) s (.ok ()) after) :
    ∃ grown outer, Grown s.disk grown ∧
      (∀ parent, s.disk.Reaches s.cwd base parent → grown = s.disk ∨
        (s.disk.lookup (parent ++ [component]) = none ∧
          grown = s.disk.set (parent ++ [component]) .directory)) ∧
      grown.Reaches s.cwd (Path.join base component) outer ∧
      Disk.Fits (Path.join base component) name ∧
      grown.lookup (outer ++ [name]) ≠ some .directory ∧
      grown.lookup (outer ++ [siblingName name]) ≠ some .directory ∧
      after = { s with disk := grown.replaceFile outer name t } := by
  unfold writeWhole at h
  rw [Path.parent?_join base hcomponent hname] at h
  obtain ⟨_, between, hmake, hrest⟩ := Task.ends_bind_ok.1 h
  obtain ⟨outcome, between', hwrite, hrest⟩ := Task.ends_attempt_bind.1 hrest
  obtain ⟨hsame, hgrown⟩ := ensureChain_grown hmake
  have hcwd : between.cwd = s.cwd := by rw [hsame]
  cases outcome with
  -- the sibling is removed, and the error comes out
  | error problem =>
    obtain ⟨_, between'', -, hthrow⟩ := Task.ends_attempt_bind.1 hrest
    cases (Task.ends_throw.1 hthrow).1
  | ok _ =>
    obtain ⟨-, rfl⟩ := Task.ends_pure.1 hrest
    obtain ⟨outer, hreach, hfits, htarget, hsibling, rfl⟩ :=
      writeThroughSibling_ok hcomponent hname hwrite
    rw [hcwd] at hreach
    refine ⟨between.disk, outer, hgrown, fun parent hparent => ?_, hreach, hfits, htarget,
      hsibling, ?_⟩
    · -- where the directory above is there, no other directory is asked for
      have hparentFits := hfits.parent hcomponent hname hreach
      rcases ensureDirectories_of_reaches hcomponent hparentFits hparent hmake with
        hsame | ⟨hnone, hset⟩
      · exact .inl (by rw [hsame])
      · exact .inr ⟨hnone, by rw [hset]⟩
    · rw [hsame]

/-! ## 4. Reading and removing -/

/-- What is read from a file depends on the entry only. -/
theorem Disk.readRecord_eq {α : Type} (disk : Disk) (cwd : Location) (path : Path)
    (reader : Json.Reader α) (fallback : α) :
    disk.readRecord cwd path reader fallback =
      match disk.entry? cwd path with
      | some (.file (.text t)) => decodeOr reader fallback t
      | _ => fallback := by
  unfold Disk.readRecord Disk.read Disk.entry?
  cases disk.stat cwd path with
  | error problem => rfl
  | ok entry =>
    cases entry with
    | directory => rfl
    | file content => cases content <;> rfl

/-- **Removing.** A file that is there is erased; else there was nothing. -/
theorem removeIfPresent_ok (hname : PlainName name)
    (h : Ends (removeIfPresent (Path.join base name)) s (.ok ()) after) :
    (∃ outer content, s.disk.Reaches s.cwd base outer ∧
        s.disk.lookup (outer ++ [name]) = some (.file content) ∧
        after = { s with disk := s.disk.erase (outer ++ [name]) }) ∨
      (after = s ∧ s.disk.entry? s.cwd (Path.join base name) = none) := by
  unfold removeIfPresent at h
  obtain ⟨outcome, between, hremove, hrest⟩ := Task.ends_attempt_bind.1 h
  rcases ends_change.1 hremove with ⟨disk, hdisk, rfl, rfl⟩ | ⟨problem, hproblem, rfl, rfl⟩
  · obtain ⟨-, rfl⟩ := Task.ends_pure.1 hrest
    obtain ⟨outer, content, hreach, hentry, rfl⟩ := Disk.removeFile_join_ok hname hdisk
    exact .inl ⟨outer, content, hreach, hentry, rfl⟩
  · -- of the failures only the missing entry is let pass; every other is thrown on
    split at hrest
    next heq => cases heq
    next heq =>
      obtain rfl : problem = .notFound := Except.error.inj heq
      exact .inr ⟨(Task.ends_pure.1 hrest).2, Disk.entry?_of_removeFile hproblem⟩
    next => cases (Task.ends_throw.1 hrest).1

end MarkupDesk.Files
