/-
`Proofs/Files/Step.lean` -- which paths an action uses.

An action uses a path when it asks what is there or changes it. What there is to do with paths are
few steps: finding, reading, writing, moving and removing files, and finding and making directories.
A `Permit` names the paths for the one and for the other, and an action that is composed of steps on
permitted paths uses no other (`Uses`).

What such an action may do to a disk is known from its paths. It changes only what stands at the
location that a permitted path names (`Uses.bounded`). And what it finds and leaves there depends on
nothing but the entries on the way to these locations: it cannot tell two disks apart that have the
same ones (`Uses.agrees`).
-/
import MarkupDesk.Proofs.Composed
import MarkupDesk.Proofs.Files.Ancestor
import MarkupDesk.Proofs.Files.Way

set_option autoImplicit false

namespace MarkupDesk

open Calendar (Timestamp)

/-- What the clock says. -/
def Session.clock : StateM Session Timestamp := do return (← get).now

namespace Files

open MarkupDesk.Path (PlainName)

/-! ## 1. Steps -/

/-- The paths that may be used, as files and as directories. -/
structure Permit where
  file : Path → Prop
  directory : Path → Prop

/-- One thing that is done with a permitted path. Looking at the clock and taking a token need
none. -/
inductive Step (permit : Permit) : (α : Type) → StateM Session α → Prop where
  | clock : Step permit _ Session.clock
  | token : Step permit _ Session.freshToken
  | find {path : Path} (h : permit.file path) : Step permit _ (hasEntry path)
  | read {path : Path} (h : permit.file path) :
    Step permit _ (inspect fun disk cwd => disk.read cwd path)
  | write {path : Path} (h : permit.file path) (t : Text) : Step permit _ (writeText path t).run
  | move {path goal : Path} (h : permit.file path) (hgoal : permit.file goal) :
    Step permit _ (change fun disk cwd => disk.moveFile cwd path goal).run
  | remove {path : Path} (h : permit.file path) : Step permit _ (removeFile path).run
  | findDirectory {path : Path} (h : permit.directory path) :
    Step permit _ (inspect fun disk cwd => disk.isDirectory cwd path)
  | makeDirectory {path : Path} (h : permit.directory path) :
    Step permit _ (change fun disk cwd => disk.makeDirectory cwd path).run

/-- The action uses permitted paths only. -/
abbrev Uses (permit : Permit) {α : Type} (action : StateM Session α) : Prop :=
  Composed (Step permit) action

variable {permit : Permit} {path : Path} {paths : List Path} {t : Text}

/-- Loading a record looks for its file and reads it. -/
theorem uses_loadRecord {α : Type} (h : permit.file path) (reader : Json.Reader α) (fallback : α) :
    Uses permit (loadRecord path reader fallback) := by
  have hsame : loadRecord path reader fallback =
      (fun outcome : Except FileError Text => (outcome.toOption.map (decodeOr reader fallback)).getD
        fallback) <$> inspect fun disk cwd => disk.read cwd path := by
    funext s
    show (s.disk.readRecord s.cwd path reader fallback, s) =
      (((s.disk.read s.cwd path).toOption.map (decodeOr reader fallback)).getD fallback, s)
    unfold Disk.readRecord
    cases s.disk.read s.cwd path <;> rfl
  rw [hsame]
  exact .map _ (.step (.read h))

/-- Making a directory that may be there uses the path of the directory only. -/
theorem uses_ensureDirectory (h : permit.directory path) : Uses permit (ensureDirectory path).run := by
  unfold ensureDirectory
  refine .task_bind (.task_attempt (.step (.makeDirectory h))) fun outcome => ?_
  cases outcome with
  | ok _ => exact .task_pure _
  | error problem =>
    refine .task_bind (.task_lift (.step (.findDirectory h))) fun there => ?_
    cases there with
    | true => exact .task_pure _
    | false => exact .task_throw _

/-- Making a chain of directories uses the paths of the chain. The induction is on the
chain. -/
theorem uses_ensureChain (h : ∀ path ∈ paths, permit.directory path) :
    Uses permit (ensureChain paths).run := by
  induction paths with
  | nil => exact .task_throw _
  | cons path paths ih =>
    obtain ⟨hpath, hpaths⟩ := List.forall_mem_cons.1 h
    rw [ensureChain]
    -- the chain stops at the first directory that stands, and goes outward from a missing one
    split
    · exact .task_pure _
    refine .task_bind (.task_attempt (uses_ensureDirectory hpath)) fun outcome => ?_
    split
    · exact .task_pure _
    · exact .task_bind (ih hpaths) fun _ => uses_ensureDirectory hpath
    · exact .task_throw _

/-- Removing a file that need not be there is one step: that the file was missing is no
failure. -/
theorem uses_removeIfPresent (h : permit.file path) : Uses permit (removeIfPresent path).run := by
  unfold removeIfPresent
  refine .task_bind (.task_attempt (.step (.remove h))) fun outcome => ?_
  split
  · exact .task_pure _
  · exact .task_pure _
  · exact .task_throw _

/-- What is done once the text was moved into place, or was not. -/
theorem uses_outcome (hsibling : permit.file (siblingPath path)) (outcome : Except FileError Unit) :
    Uses permit (match outcome with
      | .ok _ => return
      | .error problem => do
        let _ ← (Task.attempt (removeFile (siblingPath path)) : Task FileError (Except FileError Unit))
        throw problem : Task FileError Unit).run := by
  cases outcome with
  | ok _ => exact .task_pure _
  | error problem =>
    exact .task_bind (.task_attempt (.step (.remove hsibling))) fun _ => .task_throw _

/-- **Replacing a file** uses the file, its sibling and the directories that contain it. -/
theorem uses_writeWhole (h : permit.file path) (hsibling : permit.file (siblingPath path))
    (hparent : ∀ directory ∈ Path.parent? path, ∀ above ∈ Path.ancestors directory,
      permit.directory above) : Uses permit (writeWhole path t).run := by
  have hthrough : Uses permit (writeThroughSibling path t).run :=
    .task_bind (.step (.write hsibling t)) fun _ => .step (.move hsibling h)
  have hwritten := Composed.task_bind (.task_attempt hthrough) (uses_outcome hsibling)
  unfold writeWhole
  cases hdirectory : Path.parent? path with
  | none => exact hwritten
  | some directory =>
    exact .task_bind (uses_ensureChain (hparent directory hdirectory)) fun _ => hwritten

/-! ## 2. What is changed -/

/-- How a change of the disk is run: only what the change grants is set. -/
theorem run_change (act : Disk → Location → Except FileError Disk) (s : Session) :
    (change act).run.run s =
      match act s.disk s.cwd with
      | .ok disk => (.ok (), { s with disk := disk })
      | .error problem => (.error problem, s) := by
  cases hact : act s.disk s.cwd with
  | ok disk => exact ends_change.2 (.inl ⟨disk, hact, rfl, rfl⟩)
  | error problem => exact ends_change.2 (.inr ⟨problem, hact, rfl, rfl⟩)

/-- The entry at the location is what it was, the location is that of a permitted file, or it is
that of a permitted directory, which has come. -/
def Allowed (permit : Permit) (cwd x : Location) (old new : Option Entry) : Prop :=
  new = old ∨ (∃ path, permit.file path ∧ x = Disk.target cwd path) ∨
    old = none ∧ new = some .directory ∧ ∃ path, permit.directory path ∧ x = Disk.target cwd path

/-- Only what stands at permitted paths has changed. -/
structure Bounded (permit : Permit) (s after : Session) : Prop where
  cwd : after.cwd = s.cwd
  entries : ∀ x, Allowed permit s.cwd x (s.disk.lookup x) (after.disk.lookup x)

/-- Keeping to what is permitted chains, so that it is shown of single steps only. -/
theorem chains_bounded (permit : Permit) : Chains (Bounded permit) where
  refl _ := ⟨rfl, fun _ => .inl rfl⟩
  trans {s between after} h h' := by
    refine ⟨h'.cwd.trans h.cwd, fun x => ?_⟩
    have hlater := h'.entries x
    rw [h.cwd] at hlater
    rcases hlater with hsame | hfile | ⟨hnone, hmade⟩
    · rw [hsame]
      exact h.entries x
    · exact .inr (.inl hfile)
    · rcases h.entries x with hsame | hfile | ⟨-, hdirectory, -⟩
      · exact .inr (.inr ⟨hsame ▸ hnone, hmade⟩)
      · exact .inr (.inl hfile)
      · rw [hdirectory] at hnone
        cases hnone
  cwd := Bounded.cwd

section Changes

variable {s : Session} {cwd : Location} {disk disk' : Disk} {goal : Path}

/-- A change of the disk at permitted paths. -/
theorem bounded_change {act : Disk → Location → Except FileError Disk}
    (hact : ∀ disk', act s.disk s.cwd = .ok disk' →
      ∀ x, Allowed permit s.cwd x (s.disk.lookup x) (disk'.lookup x)) :
    Bounded permit s ((change act).run.run s).2 := by
  rw [run_change]
  cases hdisk : act s.disk s.cwd with
  | ok disk' => exact ⟨rfl, hact disk' hdisk⟩
  | error problem => exact (chains_bounded permit).refl s

/-- Writing changes the entry at the target of its path, which was no directory. -/
theorem allowed_write {content : Content} (h : permit.file path)
    (hwrite : disk.write cwd path content = .ok disk') (x : Location) :
    Allowed permit cwd x (disk.lookup x) (disk'.lookup x) := by
  obtain ⟨-, -, rfl⟩ := Disk.write_ok hwrite
  by_cases hx : x = Disk.target cwd path
  · exact .inr (.inl ⟨path, h, hx⟩)
  · exact .inl (Disk.lookup_set_of_ne hx _ _)

/-- Removing erases the entry at the target of its path, which was a file. -/
theorem allowed_remove (h : permit.file path) (hremove : disk.removeFile cwd path = .ok disk')
    (x : Location) : Allowed permit cwd x (disk.lookup x) (disk'.lookup x) := by
  obtain ⟨-, -, rfl⟩ := Disk.removeFile_ok hremove
  by_cases hx : x = Disk.target cwd path
  · exact .inr (.inl ⟨path, h, hx⟩)
  · exact .inl (Disk.lookup_erase_of_ne hx _)

/-- Moving changes the entries at two targets, and both paths are permitted. -/
theorem allowed_move (h : permit.file path) (hgoal : permit.file goal)
    (hmove : disk.moveFile cwd path goal = .ok disk') (x : Location) :
    Allowed permit cwd x (disk.lookup x) (disk'.lookup x) := by
  obtain ⟨content, -, -, -, -, ⟨-, rfl⟩ | rfl⟩ := Disk.moveFile_ok hmove
  · exact .inl rfl
  · by_cases hx : x = Disk.target cwd goal
    · exact .inr (.inl ⟨goal, hgoal, hx⟩)
    by_cases hx' : x = Disk.target cwd path
    · exact .inr (.inl ⟨path, h, hx'⟩)
    · exact .inl ((Disk.lookup_set_of_ne hx _ _).trans (Disk.lookup_erase_of_ne hx' _))

/-- A directory is made where nothing was. -/
theorem allowed_makeDirectory (h : permit.directory path)
    (hmake : disk.makeDirectory cwd path = .ok disk') (x : Location) :
    Allowed permit cwd x (disk.lookup x) (disk'.lookup x) := by
  have hset := Disk.makeDirectory_at hmake
  by_cases hx : x = Disk.target cwd path
  · -- where something stood nothing is made
    obtain ⟨location, hne, hnone, rfl⟩ := Disk.makeDirectory_ok hmake
    rcases grown_set hne hnone x with hsame | ⟨hfree, hmade⟩
    · exact .inl hsame
    · exact .inr (.inr ⟨hfree, hmade, path, h, hx⟩)
  · rw [hset]
    exact .inl (Disk.lookup_set_of_ne hx _ _)

end Changes

/-- **One step changes what is permitted** and nothing else: one case for each kind of
step. -/
theorem Step.bounded {α : Type} {action : StateM Session α} (h : Step permit α action) (s : Session) :
    Bounded permit s (action.run s).2 := by
  have hsame := (chains_bounded permit).refl s
  cases h with
  | clock => exact hsame
  | token => exact ⟨rfl, fun _ => .inl rfl⟩
  | find h => exact hsame
  | read h => exact hsame
  | write h t => exact bounded_change fun disk' hwrite => allowed_write h hwrite
  | move h hgoal => exact bounded_change fun disk' hmove => allowed_move h hgoal hmove
  | remove h => exact bounded_change fun disk' hremove => allowed_remove h hremove
  | findDirectory h => exact hsame
  | makeDirectory h => exact bounded_change fun disk' hmake => allowed_makeDirectory h hmake

/-- **Nothing has changed but at the permitted paths.** -/
theorem Uses.bounded {α : Type} {action : StateM Session α} (h : Uses permit action) (s : Session) :
    Bounded permit s (action.run s).2 :=
  h.keeps (chains_bounded permit) (fun hstep s _ => hstep.bounded s) s rfl

/-! ## 3. What is looked at -/

/-- The locations on the way of permitted paths. -/
def Permit.places (permit : Permit) (cwd x : Location) : Prop :=
  ∃ path, (permit.file path ∨ permit.directory path) ∧ x ∈ Disk.way cwd path

theorem Permit.place_of_file (h : permit.file path) {cwd : Location} :
    ∀ x ∈ Disk.way cwd path, permit.places cwd x :=
  fun _ hx => ⟨path, .inl h, hx⟩

theorem Permit.place_of_directory (h : permit.directory path) {cwd : Location} :
    ∀ x ∈ Disk.way cwd path, permit.places cwd x :=
  fun _ hx => ⟨path, .inr h, hx⟩

/-- The sessions have the same entries on the way of permitted paths, and the same clock and
tokens. -/
structure Agree (permit : Permit) (s s' : Session) : Prop where
  cwd : s'.cwd = s.cwd
  now : s'.now = s.now
  token : s'.nextToken = s.nextToken
  disks : Disk.AgreeOn (permit.places s.cwd) s.disk s'.disk

variable {s s' : Session}

/-- Two sessions that agree have the same entries on the way of a permitted path. -/
theorem Agree.on_way (h : Agree permit s s') (hway : ∀ x ∈ Disk.way s.cwd path, permit.places s.cwd x) :
    ∀ x ∈ Disk.way s.cwd path, s.disk.lookup x = s'.disk.lookup x :=
  fun x hx => h.disks x (hway x hx)

/-- A change that comes to the same on two disks leaves sessions that agree, and ends in the
same way. -/
theorem agree_change {act : Disk → Location → Except FileError Disk} (h : Agree permit s s')
    (hact : Disk.Alike (permit.places s.cwd) (act s.disk s.cwd) (act s'.disk s.cwd)) :
    ((change act).run.run s).1 = ((change act).run.run s').1 ∧
      Agree permit ((change act).run.run s).2 ((change act).run.run s').2 := by
  rw [run_change, run_change, h.cwd]
  cases hs : act s.disk s.cwd with
  | ok disk =>
    cases hs' : act s'.disk s.cwd with
    | ok disk' =>
      rw [hs, hs'] at hact
      exact ⟨rfl, rfl, h.now, h.token, hact⟩
    -- the two runs cannot part: whether the change fails is read from the places they agree on
    | error problem' =>
      rw [hs, hs'] at hact
      exact hact.elim
  | error problem =>
    cases hs' : act s'.disk s.cwd with
    | ok disk' =>
      rw [hs, hs'] at hact
      exact hact.elim
    | error problem' =>
      rw [hs, hs'] at hact
      exact ⟨congrArg Except.error hact, h⟩

/-- **One step cannot tell two sessions apart** that agree on what it looks at: it gives the
same result, and the sessions agree again. One case for each kind of step; those that change
nothing need the entries on the way only. -/
theorem Step.agrees {α : Type} {action : StateM Session α} (hstep : Step permit α action)
    (s s' : Session) (h : Agree permit s s') :
    (action.run s).1 = (action.run s').1 ∧ Agree permit (action.run s).2 (action.run s').2 := by
  cases hstep with
  | clock => exact ⟨h.now.symm, h⟩
  -- tokens are counted, and both sessions have counted equally far
  | token =>
    refine ⟨?_, h.cwd, h.now, congrArg (· + 1) h.token, h.disks⟩
    exact congrArg (fun n => Text.hexPadded Session.tokenDigits (n % Nat.pow 16 Session.tokenDigits))
      h.token.symm
  | @find path hfile =>
    refine ⟨?_, h⟩
    show s.disk.hasEntry s.cwd path = s'.disk.hasEntry s'.cwd path
    rw [h.cwd, Disk.hasEntry, Disk.hasEntry,
      Disk.stat_congr (h.on_way (Permit.place_of_file hfile))]
  | @read path hfile =>
    refine ⟨?_, h⟩
    show s.disk.read s.cwd path = s'.disk.read s'.cwd path
    rw [h.cwd, Disk.read_congr (h.on_way (Permit.place_of_file hfile))]
  | write hfile t =>
    exact agree_change h (Disk.write_alike h.disks (Permit.place_of_file hfile) _)
  | move hfile hgoal =>
    exact agree_change h (Disk.moveFile_alike h.disks (Permit.place_of_file hfile)
      (Permit.place_of_file hgoal))
  | remove hfile =>
    exact agree_change h (Disk.removeFile_alike h.disks (Permit.place_of_file hfile))
  | @findDirectory path hdirectory =>
    refine ⟨?_, h⟩
    show s.disk.isDirectory s.cwd path = s'.disk.isDirectory s'.cwd path
    rw [h.cwd, Disk.isDirectory, Disk.isDirectory,
      Disk.stat_congr (h.on_way (Permit.place_of_directory hdirectory))]
  | makeDirectory hdirectory =>
    exact agree_change h (Disk.makeDirectory_alike h.disks (Permit.place_of_directory hdirectory))

/-- **Nothing is known of a disk but what stands on the way of the permitted paths.** -/
theorem Uses.agrees {α : Type} {action : StateM Session α} (h : Uses permit action)
    (hsame : Agree permit s s') :
    (action.run s).1 = (action.run s').1 ∧ Agree permit (action.run s).2 (action.run s').2 :=
  Composed.agrees (fun hstep s s' => hstep.agrees s s') h s s' hsame

end Files

end MarkupDesk
