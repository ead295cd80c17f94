/-
`Proofs/Files/Ancestor.lean` -- the directories on the way of a path.

A path leads to a directory if it can be given to the system and all its names lead on
(`isDirectory_iff_reaches`); then the paths above it lead to directories too. So if the directories
of a path could not be made, the path leads to none (`ensureDirectories_failed`). Directories are
made at the targets of the path and of its ancestors only (`ensureDirectories_at`), and these are on
the way to the target of the path, unless the path goes back by a `..` (`target_above`).
-/
import MarkupDesk.Proofs.Files.Parent
import MarkupDesk.Proofs.Files.Written

set_option autoImplicit false

namespace MarkupDesk.Files

open MarkupDesk.Path (Above NameIn PlainName)
open MarkupDesk.Task (Ends)

namespace Disk

variable {disk disk' : Disk} {cwd start location : Location} {path p q : Path} {name : Text}
  {names : List Text} {slash : Bool} {found : Resolved}

/-! ## 1. Paths that lead to directories -/

/-- The path can be given to the system. -/
structure Sendable (path : Path) : Prop where
  noNul : Char.ofNat 0 ∉ path
  short : Text.byteLength path < pathByteLimit

/-- What can be given to the system may be cut short. -/
theorem Sendable.of_prefix (h : Sendable p) (hqp : q <+: p) : Sendable q := by
  obtain ⟨rest, rfl⟩ := hqp
  obtain ⟨hnul, hshort⟩ := h
  rw [Text.byteLength_append] at hshort
  exact ⟨fun hmem => hnul (List.mem_append_left _ hmem), by omega⟩

/-- A directory that a name fits behind can be given to the system, since the longer path
behind it could be. -/
theorem Fits.sendable {base : Path} (h : Fits base name) (hname : PlainName name) : Sendable base := by
  obtain ⟨hnul, hshort, -⟩ := h
  have hjoin : Sendable (Path.join base name) := ⟨hnul, hshort⟩
  refine hjoin.of_prefix ?_
  rw [Path.join, if_neg (by simp [hname.isAbsolute])]
  split <;> exact List.prefix_append _ _

/-- A path is resolved if it is not empty, can be given to the system, and its names can be
followed. The three refusals come one after the other, each before anything is looked up. -/
theorem resolve_eq_ok_iff : disk.resolve cwd path = .ok found ↔
    path ≠ [] ∧ Sendable path ∧
      disk.follow (path.getLast? == some '/') (startOf cwd path) (Path.pieces path) = .ok found := by
  have hnul : Text.contains path (Char.ofNat 0) = true ↔ Char.ofNat 0 ∈ path := by
    simp [Text.contains]
  rw [resolve]
  by_cases hmem : Char.ofNat 0 ∈ path
  · rw [if_pos (hnul.2 hmem)]
    constructor
    · intro h
      cases h
    · rintro ⟨-, ⟨hno, -⟩, -⟩
      exact absurd hmem hno
  rw [if_neg (mt hnul.1 hmem)]
  by_cases hempty : path = []
  · rw [if_pos (by simp [hempty])]
    constructor
    · intro h
      cases h
    · rintro ⟨hne, -⟩
      exact absurd hempty hne
  rw [if_neg (by simpa using hempty)]
  -- bytes are counted here, not characters
  by_cases hlong : pathByteLimit ≤ Text.byteLength path
  · rw [if_pos hlong]
    constructor
    · intro h
      cases h
    · rintro ⟨-, ⟨-, hshort⟩, -⟩
      omega
  rw [if_neg hlong]
  exact ⟨fun h => ⟨hempty, ⟨hmem, by omega⟩, h⟩, fun h => h.2.2⟩

/-- The last name is walked along if a directory stands there, or if it is dots. To follow a
path stops one step earlier, since its last name need not be there. -/
theorem walk_singleton_iff_follow : (∃ location, disk.walk start [name] = .ok location) ↔
    ∃ found, disk.follow slash start [name] = .ok found ∧
      ∀ last, found.last = .name last → disk.lookup (found.parent ++ [last]) = some .directory := by
  rw [walk, enter, follow]
  by_cases hdot : name = ['.']
  · rw [if_pos hdot, if_pos hdot]
    exact ⟨fun _ => ⟨_, rfl, fun _ hlast => by cases hlast⟩, fun _ => ⟨_, rfl⟩⟩
  by_cases hdots : name = ['.', '.']
  · rw [if_neg hdot, if_neg hdot, if_pos hdots, if_pos hdots]
    exact ⟨fun _ => ⟨_, rfl, fun _ hlast => by cases hlast⟩, fun _ => ⟨_, rfl⟩⟩
  rw [if_neg hdot, if_neg hdot, if_neg hdots, if_neg hdots]
  -- a name that is too long stops both
  by_cases hlong : maxNameBytes < Text.byteLength name
  · rw [if_pos hlong, if_pos hlong]
    constructor
    · rintro ⟨_, hwalk⟩
      cases hwalk
    · rintro ⟨_, hfound, -⟩
      cases hfound
  rw [if_neg hlong, if_neg hlong]
  constructor
  · rintro ⟨location, hwalk⟩
    refine ⟨_, rfl, fun last hlast => ?_⟩
    obtain rfl := LastStep.name.inj hlast
    cases hentry : disk.lookup (start ++ [name]) with
    | none => simp [hentry] at hwalk
    | some entry =>
      cases entry with
      | file content => simp [hentry] at hwalk
      | directory => rfl
  · rintro ⟨found, hfound, hlast⟩
    obtain rfl := Except.ok.inj hfound
    refine ⟨start ++ [name], ?_⟩
    simp [hlast name rfl, walk]

/-- Following names up to a directory is walking along them. The induction is on the names;
only the last one is treated differently by the two. -/
theorem walk_iff_follow : (∃ location, disk.walk start names = .ok location) ↔
    ∃ found, disk.follow slash start names = .ok found ∧
      ∀ name, found.last = .name name → disk.lookup (found.parent ++ [name]) = some .directory := by
  induction names generalizing start with
  | nil =>
    refine ⟨fun _ => ⟨⟨start, .directory, slash⟩, rfl, fun name hlast => ?_⟩, fun _ => ⟨start, rfl⟩⟩
    cases hlast
  | cons first names ih =>
    cases names with
    | nil => exact walk_singleton_iff_follow
    | cons second names =>
      -- in front of the last name the two do the same
      rw [walk, follow]
      · cases disk.enter start first with
        | error problem =>
          constructor
          · rintro ⟨_, hwalk⟩
            cases hwalk
          · rintro ⟨_, hfound, -⟩
            cases hfound
        | ok next => exact ih
      · exact List.cons_ne_nil _ _

/-- **A path leads to a directory** exactly if it can be given to the system and reaches one. -/
theorem isDirectory_iff_reaches : disk.isDirectory cwd path = true ↔
    path ≠ [] ∧ Sendable path ∧ ∃ location, disk.Reaches cwd path location := by
  simp only [isDirectory_iff, resolve_eq_ok_iff, Reaches]
  constructor
  · rintro ⟨found, ⟨hne, hsend, hfollow⟩, hlast⟩
    exact ⟨hne, hsend, walk_iff_follow.2 ⟨found, hfollow, hlast⟩⟩
  · rintro ⟨hne, hsend, hwalk⟩
    obtain ⟨found, hfollow, hlast⟩ := walk_iff_follow.1 hwalk
    exact ⟨found, ⟨hne, hsend, hfollow⟩, hlast⟩

/-- Where a path leads to a directory, the paths above it do. -/
theorem Reaches.above (h : Above q p) (hreach : disk.Reaches cwd p location) :
    ∃ outer, disk.Reaches cwd q outer := by
  obtain ⟨names, hnames⟩ := h.pieces
  have hstart : startOf cwd q = startOf cwd p := by rw [startOf, startOf, h.absolute]
  rw [Reaches, ← hnames, walk_append, ← hstart] at hreach
  cases hwalk : disk.walk (startOf cwd q) (Path.pieces q) with
  | error problem =>
    rw [hwalk] at hreach
    cases hreach
  | ok outer => exact ⟨outer, hwalk⟩

/-- What a directory is in is a directory. -/
theorem isDirectory_above (h : Above q p) (hne : q ≠ []) (hthere : disk.isDirectory cwd p = true) :
    disk.isDirectory cwd q = true := by
  obtain ⟨-, hsend, location, hreach⟩ := isDirectory_iff_reaches.1 hthere
  exact isDirectory_iff_reaches.2 ⟨hne, hsend.of_prefix h.text, hreach.above h⟩

/-- What is followed up to a name is walked along up to there. -/
theorem walk_of_follow {back : List Text}
    (h : disk.follow slash start (names ++ name :: back) = .ok found) :
    ∃ location, disk.walk start names = .ok location := by
  induction names generalizing start with
  | nil => exact ⟨start, rfl⟩
  | cons first names ih =>
    obtain ⟨second, behind, hbehind⟩ := List.exists_cons_of_ne_nil
      (List.append_ne_nil_of_right_ne_nil names (List.cons_ne_nil name back))
    have hstep : disk.follow slash start (first :: second :: behind) = (do
        let next ← disk.enter start first
        disk.follow slash next (second :: behind)) := by
      rw [follow]
      exact List.cons_ne_nil _ _
    rw [List.cons_append, hbehind, hstep, ← hbehind] at h
    rw [walk]
    -- a step that fails would have ended the path, too
    cases hnext : disk.enter start first with
    | error problem =>
      rw [hnext] at h
      cases h
    | ok next =>
      rw [hnext] at h
      exact ih h

/-- **A path that can be followed** has a directory as its parent, or none. A parent without a
text, that of a bare name, is where the path begins. -/
theorem isDirectory_parent {directory : Path} (hparent : Path.parent? path = some directory)
    (h : disk.resolve cwd path = .ok found) : directory = [] ∨ disk.isDirectory cwd directory = true := by
  obtain ⟨-, hsend, hfollow⟩ := resolve_eq_ok_iff.1 h
  rcases List.eq_nil_or_concat (Path.componentEnds 0 (Text.splitOn '/' path)) with
    hnil | ⟨outer, ⟨k, name⟩, hends⟩
  · rw [Path.parent?, Path.ancestors_of_nil hnil] at hparent
    cases hparent
  · rw [List.concat_eq_append] at hends
    obtain ⟨q, hcut⟩ := Path.exists_parent hends
    obtain rfl := Option.some.inj (hparent.symm.trans hcut.parent)
    obtain ⟨dots, dots', hpieces, -⟩ := hcut.pieces
    by_cases hempty : directory = []
    · exact .inl hempty
    -- the parent begins where the path does, at the root or in the working directory
    · have hstart : startOf cwd directory = startOf cwd path := by
        rw [startOf, startOf, hcut.absolute]
      rw [hpieces] at hfollow
      obtain ⟨location, hwalk⟩ := walk_of_follow hfollow
      rw [walk_append] at hwalk
      refine .inr (isDirectory_iff_reaches.2 ⟨hempty, hsend.of_prefix hcut.text, ?_⟩)
      cases hreach : disk.walk (startOf cwd path) (Path.pieces directory) with
      | error problem =>
        rw [hreach] at hwalk
        cases hwalk
      | ok outer => exact ⟨outer, (congrArg (disk.walk · _) hstart).trans hreach⟩

/-! ## 2. Targets on the way -/

/-- Names that do not go back lead on. -/
theorem foldl_stepOf_prefix (h : ['.', '.'] ∉ names) : start <+: names.foldl stepOf start := by
  induction names generalizing start with
  | nil => exact List.prefix_rfl
  | cons name names ih =>
    rw [List.mem_cons, not_or] at h
    have hstep : start <+: stepOf start name := by
      rw [stepOf]
      split
      · exact List.prefix_rfl
      · rw [if_neg (Ne.symm h.1)]
        exact List.prefix_append _ _
    exact hstep.trans (ih h.2)

/-- Single dots lead nowhere. -/
theorem foldl_stepOf_dots (h : ∀ dot ∈ names, dot = ['.']) : names.foldl stepOf start = start := by
  induction names with
  | nil => rfl
  | cons name names ih =>
    rw [List.foldl_cons, h name List.mem_cons_self, stepOf, if_pos rfl,
      ih fun dot hdot => h dot (List.mem_cons_of_mem _ hdot)]

/-- What is above a path that does not go back is on the way to its target. -/
theorem target_above (h : Above q p) (hdots : ['.', '.'] ∉ Path.pieces p) :
    target cwd q <+: target cwd p := by
  obtain ⟨names, hnames⟩ := h.pieces
  rw [← hnames] at hdots
  rw [target, target, ← hnames, List.foldl_append, startOf, h.absolute, ← startOf]
  exact foldl_stepOf_prefix fun hmem => hdots (List.mem_append_right _ hmem)

/-- A name in a directory has its target below that of the directory. -/
theorem target_of_nameIn {directory : Path} (h : NameIn directory p name) (cwd : Location) :
    target cwd p = target cwd directory ++ [name] := by
  obtain ⟨dots, dots', hpieces, hdots⟩ := h.pieces
  have hbefore : ∀ dot ∈ dots, dot = ['.'] := fun dot hdot => hdots dot (List.mem_append_left _ hdot)
  have hbehind : ∀ dot ∈ dots', dot = ['.'] := fun dot hdot => hdots dot (List.mem_append_right _ hdot)
  rw [target, hpieces, startOf, ← h.absolute, ← startOf, List.foldl_append, List.foldl_append,
    ← target, foldl_stepOf_dots hbefore, List.foldl_cons, stepOf_plain h.plain,
    foldl_stepOf_dots hbehind]

/-- A directory is made at the target of its path. -/
theorem makeDirectory_at (h : disk.makeDirectory cwd path = .ok disk') :
    disk' = disk.set (target cwd path) .directory := by
  simp only [makeDirectory, bind, Except.bind] at h
  cases hfound : disk.resolve cwd path with
  | error problem =>
    rw [hfound] at h
    cases h
  | ok found =>
    rw [hfound] at h
    cases hlast : found.last with
    | directory =>
      simp only [hlast] at h
      cases h
    | name name =>
      simp only [hlast, resolve_ok hfound hlast] at h
      split at h
      · cases h
      · exact (Except.ok.inj h).symm

end Disk

/-! ## 3. Making directories -/

variable {s after : Session} {p q : Path}

/-- A directory that could not be made is not there. -/
theorem ensureDirectory_failed {problem : FileError}
    (h : Ends (ensureDirectory p) s (.error problem) after) :
    after = s ∧ after.disk.isDirectory after.cwd p = false := by
  rcases ends_ensureDirectory h with ⟨_, -, hok, -⟩ | ⟨-, hok, -⟩ | ⟨_, -, hnot, -, rfl⟩
  · cases hok
  · cases hok
  · exact ⟨rfl, hnot⟩

/-- **If directories could not be made**, the path leads to none. The induction is on the
chain of ancestors, from the path outwards: whichever of the tries failed last, a path above
leads to no directory, and so none below it does. -/
theorem ensureDirectories_failed {problem : FileError}
    (h : Ends (ensureDirectories p) s (.error problem) after) :
    p ≠ [] ∧ after.disk.isDirectory after.cwd p = false := by
  rw [ensureDirectories] at h
  generalize hpaths : Path.ancestors p = paths at h
  induction paths generalizing p problem after with
  | nil =>
    obtain ⟨outer, houter⟩ := exists_ancestors p
    rw [houter] at hpaths
    cases hpaths
  | cons first paths ih =>
    obtain ⟨outer, houter⟩ := exists_ancestors p
    obtain ⟨rfl, -⟩ := List.cons.inj (houter.symm.trans hpaths)
    rw [ensureChain] at h
    by_cases hempty : p.isEmpty = true
    · rw [if_pos hempty] at h
      cases (Task.ends_pure.1 h).1
    rw [if_neg hempty] at h
    refine ⟨by simpa using hempty, ?_⟩
    -- made at once; or after those above it; or refused for another reason than a missing parent
    obtain ⟨outcome, between, hfirst, hrest⟩ := Task.ends_attempt_bind.1 h
    split at hrest
    · cases (Task.ends_pure.1 hrest).1
    · rcases Task.ends_bind.1 hrest with ⟨_, habove, -⟩ | ⟨_, _, -, hlast⟩
      · rcases Path.ancestors_cases p with hone | ⟨parent, hmore, hparent⟩
        · -- nothing is above, so the error is that of the first try
          rw [hone] at hpaths
          obtain ⟨-, rfl⟩ := List.cons.inj hpaths
          obtain ⟨-, rfl⟩ := Task.ends_throw.1 habove
          exact (ensureDirectory_failed hfirst).2
        · rw [hmore] at hpaths
          obtain ⟨-, hrest⟩ := List.cons.inj hpaths
          obtain ⟨rfl, -⟩ := ensureDirectory_failed hfirst
          obtain ⟨hne, hnot⟩ := ih hrest habove
          refine Bool.eq_false_iff.2 fun hthere => ?_
          rw [Disk.isDirectory_above hparent hne hthere] at hnot
          cases hnot
      · exact (ensureDirectory_failed hlast).2
    · obtain ⟨-, rfl⟩ := Task.ends_throw.1 hrest
      exact (ensureDirectory_failed hfirst).2

/-- A directory is made at the target of the path. -/
theorem ensureDirectory_at {result : Except FileError Unit} (h : Ends (ensureDirectory p) s result after)
    (x : Location) :
    after.disk.lookup x = s.disk.lookup x ∨ x = Disk.target s.cwd p := by
  rcases ends_ensureDirectory h with ⟨disk, hmake, -, rfl⟩ | ⟨-, -, rfl⟩ | ⟨_, -, -, -, rfl⟩
  · by_cases hx : x = Disk.target s.cwd p
    · exact .inr hx
    · rw [(Disk.makeDirectory_at hmake)]
      exact .inl (Disk.lookup_set_of_ne hx _ _)
  · exact .inl rfl
  · exact .inl rfl

/-- Directories are made at the targets of the paths of the chain and nowhere else, whether
the chain ends well or not. -/
theorem ensureChain_at {paths : List Path} {result : Except FileError Unit}
    (h : Ends (ensureChain paths) s result after) (x : Location) :
    after.disk.lookup x = s.disk.lookup x ∨ ∃ q ∈ paths, x = Disk.target s.cwd q := by
  induction paths generalizing s result after with
  | nil =>
    obtain ⟨-, rfl⟩ := Task.ends_throw.1 h
    exact .inl rfl
  | cons path paths ih =>
    rw [ensureChain] at h
    by_cases hempty : path.isEmpty = true
    · rw [if_pos hempty] at h
      obtain ⟨-, rfl⟩ := Task.ends_pure.1 h
      exact .inl rfl
    rw [if_neg hempty] at h
    obtain ⟨outcome, between, hfirst, hrest⟩ := Task.ends_attempt_bind.1 h
    -- the target of this path itself is the excuse; elsewhere the step changed nothing
    by_cases hx : x = Disk.target s.cwd path
    · exact .inr ⟨path, List.mem_cons_self, hx⟩
    have hkept := (ensureDirectory_at hfirst x).resolve_right hx
    have hcwd : between.cwd = s.cwd := by rw [(ensureDirectory_grown hfirst).1]
    split at hrest
    · obtain ⟨-, rfl⟩ := Task.ends_pure.1 hrest
      exact .inl hkept
    · rw [← hkept, ← hcwd]
      rcases Task.ends_bind.1 hrest with ⟨_, houter, -⟩ | ⟨_, between', houter, hlast⟩
      · rcases ih houter with hsame | ⟨q, hq, htarget⟩
        · exact .inl hsame
        · exact .inr ⟨q, List.mem_cons_of_mem _ hq, htarget⟩
      · have hcwd' : between'.cwd = between.cwd := by rw [(ensureChain_grown houter).1]
        rw [← hcwd, ← hcwd'] at hx
        rw [(ensureDirectory_at hlast x).resolve_right hx]
        rcases ih houter with hsame | ⟨q, hq, htarget⟩
        · exact .inl hsame
        · exact .inr ⟨q, List.mem_cons_of_mem _ hq, htarget⟩
    · obtain ⟨-, rfl⟩ := Task.ends_throw.1 hrest
      exact .inl hkept

/-- **Directories are made** at the targets of the path and of its ancestors. -/
theorem ensureDirectories_at {result : Except FileError Unit}
    (h : Ends (ensureDirectories p) s result after) (x : Location) :
    after.disk.lookup x = s.disk.lookup x ∨ ∃ q, Above q p ∧ x = Disk.target s.cwd q := by
  rcases ensureChain_at h x with hsame | ⟨q, hq, htarget⟩
  · exact .inl hsame
  · exact .inr ⟨q, Path.above_of_mem_ancestors hq, htarget⟩

end MarkupDesk.Files
