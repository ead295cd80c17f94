/-
`Proofs/Files/Reach.lean` -- where paths lead.

A path *reaches* a directory if every name on its way is that of a directory. This depends
on the directories of the disk only, so it stays true while files come and go
(`Reaches.mono`). A path that ends with a plain name is resolved exactly if the path before
the name reaches a directory and nothing is too long (`resolve_join_iff`), and from this
one equivalence follows what every operation does there.
-/
import MarkupDesk.Proofs.Files.Path

set_option autoImplicit false

namespace MarkupDesk.Files

open MarkupDesk.Path (PlainName)

namespace Disk

/-! ## 1. Reaching a directory -/

/-- The directory that names lead to, one after the other. -/
def walk (disk : Disk) : Location → List Text → Except FileError Location
  | location, [] => .ok location
  | location, name :: names =>
    match disk.enter location name with
    | .ok next => disk.walk next names
    | .error problem => .error problem

/-- The place where a path begins. -/
def startOf (cwd : Location) (path : Path) : Location := if Path.isAbsolute path then [] else cwd

/-- The path leads to a directory at the location. -/
def Reaches (disk : Disk) (cwd : Location) (path : Path) (location : Location) : Prop :=
  disk.walk (startOf cwd path) (Path.pieces path) = .ok location

variable {disk disk' : Disk} {cwd location : Location} {base : Path} {name : Text}

theorem Reaches.unique {location' : Location} (h : disk.Reaches cwd base location)
    (h' : disk.Reaches cwd base location') : location = location' :=
  Except.ok.inj (h.symm.trans h')

theorem walk_append (disk : Disk) (start : Location) (names more : List Text) :
    disk.walk start (names ++ more) =
      match disk.walk start names with
      | .ok location => disk.walk location more
      | .error problem => .error problem := by
  induction names generalizing start with
  | nil => rfl
  | cons name names ih =>
    rw [List.cons_append, walk, walk]
    cases disk.enter start name with
    | ok next => exact ih next
    | error problem => rfl

theorem enter_plain (h : PlainName name) (start : Location) :
    disk.enter start name = .ok location ↔
      Text.byteLength name ≤ maxNameBytes ∧ disk.lookup (start ++ [name]) = some .directory ∧
        location = start ++ [name] := by
  rw [enter, if_neg h.2.2.1, if_neg h.2.2.2]
  by_cases hlong : maxNameBytes < Text.byteLength name
  · rw [if_pos hlong]
    simp [Nat.not_le.2 hlong]
  · rw [if_neg hlong]
    cases hentry : disk.lookup (start ++ [name]) with
    | none => simp
    | some entry =>
      cases entry with
      | file content => simp
      | directory => simp [Nat.not_lt.1 hlong, eq_comm]

/-- A path below another one reaches a directory exactly if there is one of that name. -/
theorem reaches_join_iff (h : PlainName name) :
    disk.Reaches cwd (Path.join base name) location ↔
      ∃ outer, disk.Reaches cwd base outer ∧ Text.byteLength name ≤ maxNameBytes ∧
        disk.lookup (outer ++ [name]) = some .directory ∧ location = outer ++ [name] := by
  rw [Reaches, Path.pieces_join base h, startOf, Path.isAbsolute_join base h, ← startOf, walk_append]
  unfold Reaches
  cases disk.walk (startOf cwd base) (Path.pieces base) with
  | error problem => simp
  | ok outer =>
    -- walking the one name more is entering it, and nothing behind it can fail
    have hwalk : disk.walk outer [name] = .ok location ↔ disk.enter outer name = .ok location := by
      rw [walk]
      cases disk.enter outer name with
      | ok next => rfl
      | error problem => rfl
    simp only [hwalk, enter_plain h, Except.ok.injEq, exists_eq_left']

/-- Entering a directory asks for that directory only. -/
theorem enter_mono (hmono : ∀ x, disk.lookup x = some .directory → disk'.lookup x = some .directory)
    {start next : Location} (h : disk.enter start name = .ok next) :
    disk'.enter start name = .ok next := by
  unfold enter at h ⊢
  by_cases hdot : name = ['.']
  · rwa [if_pos hdot] at h ⊢
  by_cases hdots : name = ['.', '.']
  · rwa [if_neg hdot, if_pos hdots] at h ⊢
  by_cases hlong : maxNameBytes < Text.byteLength name
  · rwa [if_neg hdot, if_neg hdots, if_pos hlong] at h ⊢
  rw [if_neg hdot, if_neg hdots, if_neg hlong] at h ⊢
  cases hentry : disk.lookup (start ++ [name]) with
  | none => rw [hentry] at h; cases h
  | some entry =>
    rw [hentry] at h
    cases entry with
    | file content => cases h
    | directory => rwa [hmono _ hentry]

/-- More directories do not change where a path leads. -/
theorem Reaches.mono (hmono : ∀ x, disk.lookup x = some .directory → disk'.lookup x = some .directory)
    (h : disk.Reaches cwd base location) : disk'.Reaches cwd base location := by
  unfold Reaches at h ⊢
  -- the place where a path begins does not depend on the disk
  generalize startOf cwd base = start at h ⊢
  generalize Path.pieces base = names at h ⊢
  induction names generalizing start with
  | nil => exact h
  | cons name names ih =>
    rw [walk] at h ⊢
    cases hnext : disk.enter start name with
    | error problem => rw [hnext] at h; cases h
    | ok next =>
      rw [hnext] at h
      rw [enter_mono hmono hnext]
      exact ih next h

/-! ## 2. Resolving a path to a name -/

/-- Neither the path to the name nor the name is too long, and the path can be given to
the system. -/
def Fits (base : Path) (name : Text) : Prop :=
  Char.ofNat 0 ∉ Path.join base name ∧ Text.byteLength (Path.join base name) < pathByteLimit ∧
    Text.byteLength name ≤ maxNameBytes

theorem follow_concat (h : PlainName name) (slash : Bool) (start : Location) (names : List Text) :
    disk.follow slash start (names ++ [name]) =
      match disk.walk start names with
      | .ok outer =>
        if maxNameBytes < Text.byteLength name then .error .nameTooLong
        else .ok ⟨outer, .name name, slash⟩
      | .error problem => .error problem := by
  induction names generalizing start with
  | nil => rw [List.nil_append, follow, if_neg h.2.2.1, if_neg h.2.2.2, walk]
  | cons first names ih =>
    -- the step in the middle needs a name behind it
    have hmore : names ++ [name] ≠ [] := by simp
    rw [List.cons_append, follow, walk]
    · cases disk.enter start first with
      | ok next => exact ih next
      | error problem => rfl
    · exact hmore

/-- **Resolving.** A path to a name is resolved exactly if the path before the name reaches
a directory and nothing is too long. -/
theorem resolve_join_iff (h : PlainName name) {found : Resolved} :
    disk.resolve cwd (Path.join base name) = .ok found ↔
      ∃ outer, disk.Reaches cwd base outer ∧ Fits base name ∧ found = ⟨outer, .name name, false⟩ := by
  have hslash : ((Path.join base name).getLast? == some '/') = false := by
    simpa using Path.getLast?_join base h
  have hempty : ¬ (Path.join base name).isEmpty = true := by simp [Path.join_ne_nil base h]
  have hstart : (if Path.isAbsolute (Path.join base name) then [] else cwd) = startOf cwd base := by
    rw [Path.isAbsolute_join base h, startOf]
  have hpieces : (Text.splitOn '/' (Path.join base name)).filter (!·.isEmpty) =
      Path.pieces base ++ [name] := Path.pieces_join base h
  -- the names of the base are walked, and the last one is only looked at
  rw [resolve, if_neg hempty, hslash, hstart, hpieces, follow_concat h, Fits]
  unfold Reaches
  by_cases hnul : Text.contains (Path.join base name) (Char.ofNat 0) = true
  · have hmem : Char.ofNat 0 ∈ Path.join base name := by simpa [Text.contains] using hnul
    rw [if_pos hnul]
    simp [hmem]
  · have hmem : Char.ofNat 0 ∉ Path.join base name := by simpa [Text.contains] using hnul
    rw [if_neg hnul]
    by_cases hpath : pathByteLimit ≤ Text.byteLength (Path.join base name)
    · rw [if_pos hpath]
      simp [Nat.not_lt.2 hpath]
    · rw [if_neg hpath]
      cases disk.walk (startOf cwd base) (Path.pieces base) with
      | error problem => simp
      | ok outer =>
        by_cases hname : maxNameBytes < Text.byteLength name
        · simp [hname, Nat.not_le.2 hname]
        · simp [hname, hmem, Nat.not_le.1 hpath, Nat.not_lt.1 hname, eq_comm]

/-! ## 3. What operations do at a name -/

theorem location_ne_nil (outer : Location) (name : Text) : outer ++ [name] ≠ [] := by simp

theorem stat_of_reaches (h : PlainName name) {outer : Location} (hreach : disk.Reaches cwd base outer)
    (hfits : Fits base name) :
    disk.stat cwd (Path.join base name) =
      match disk.lookup (outer ++ [name]) with
      | some entry => .ok entry
      | none => .error .notFound := by
  have hfound : disk.resolve cwd (Path.join base name) = .ok ⟨outer, .name name, false⟩ :=
    (resolve_join_iff h).2 ⟨outer, hreach, hfits, rfl⟩
  simp only [stat, hfound, bind, Except.bind]
  cases disk.lookup (outer ++ [name]) with
  | none => rfl
  | some entry => cases entry <;> rfl

/-- What stands at a name, where the path before it reaches a directory. -/
theorem stat_join_iff (h : PlainName name) {entry : Entry} :
    disk.stat cwd (Path.join base name) = .ok entry ↔
      ∃ outer, disk.Reaches cwd base outer ∧ Fits base name ∧
        disk.lookup (outer ++ [name]) = some entry := by
  constructor
  · intro hstat
    cases hfound : disk.resolve cwd (Path.join base name) with
    | error problem => simp [stat, hfound, bind, Except.bind] at hstat
    | ok found =>
      obtain ⟨outer, hreach, hfits, -⟩ := (resolve_join_iff h).1 hfound
      rw [stat_of_reaches h hreach hfits] at hstat
      cases hentry : disk.lookup (outer ++ [name]) with
      | none => rw [hentry] at hstat; cases hstat
      | some other =>
        rw [hentry] at hstat
        exact ⟨outer, hreach, hfits, by rw [hentry, Except.ok.inj hstat]⟩
  · rintro ⟨outer, hreach, hfits, hentry⟩
    rw [stat_of_reaches h hreach hfits, hentry]

/-- The entry that a path leads to, if it leads to one. -/
def entry? (disk : Disk) (cwd : Location) (path : Path) : Option Entry := (disk.stat cwd path).toOption

/-- **Looking.** The entry is that of the name in the directory that is reached before it. -/
theorem entry?_join_iff (h : PlainName name) {entry : Entry} :
    disk.entry? cwd (Path.join base name) = some entry ↔
      ∃ outer, disk.Reaches cwd base outer ∧ Fits base name ∧
        disk.lookup (outer ++ [name]) = some entry := by
  rw [← stat_join_iff h, entry?]
  cases disk.stat cwd (Path.join base name) with
  | error problem => simp [Except.toOption]
  | ok found => simp [Except.toOption]

/-- **Writing.** A file is set, where no directory stands. -/
theorem write_join_ok (h : PlainName name) {content : Content}
    (hwrite : disk.write cwd (Path.join base name) content = .ok disk') :
    ∃ outer, disk.Reaches cwd base outer ∧ Fits base name ∧
      disk.lookup (outer ++ [name]) ≠ some .directory ∧
      disk' = disk.set (outer ++ [name]) (.file content) := by
  simp only [write, bind, Except.bind] at hwrite
  cases hfound : disk.resolve cwd (Path.join base name) with
  | error problem => rw [hfound] at hwrite; cases hwrite
  | ok found =>
    obtain ⟨outer, hreach, hfits, rfl⟩ := (resolve_join_iff h).1 hfound
    rw [hfound] at hwrite
    refine ⟨outer, hreach, hfits, ?_⟩
    simp only [Bool.false_eq_true, if_false] at hwrite
    -- what stands there is a file at most
    cases hentry : disk.lookup (outer ++ [name]) with
    | none =>
      rw [hentry] at hwrite
      exact ⟨by simp, (Except.ok.inj hwrite).symm⟩
    | some entry =>
      rw [hentry] at hwrite
      cases entry with
      | directory => cases hwrite
      | file old => exact ⟨by simp, (Except.ok.inj hwrite).symm⟩

/-- Making a directory sets it where nothing is. -/
theorem makeDirectory_ok {path : Path} (hmake : disk.makeDirectory cwd path = .ok disk') :
    ∃ location, location ≠ [] ∧ disk.lookup location = none ∧ disk' = disk.set location .directory := by
  simp only [makeDirectory, bind, Except.bind] at hmake
  cases hfound : disk.resolve cwd path with
  | error problem => rw [hfound] at hmake; cases hmake
  | ok found =>
    rw [hfound] at hmake
    obtain ⟨outer, last, slash⟩ := found
    cases last with
    | directory => cases hmake
    | name name =>
      cases hentry : disk.lookup (outer ++ [name]) with
      | none =>
        simp only [hentry] at hmake
        exact ⟨outer ++ [name], location_ne_nil outer name, hentry, (Except.ok.inj hmake).symm⟩
      | some entry => simp [hentry] at hmake

theorem makeDirectory_join_ok (h : PlainName name)
    (hmake : disk.makeDirectory cwd (Path.join base name) = .ok disk') :
    ∃ outer, disk.Reaches cwd base outer ∧ Fits base name ∧
      disk' = disk.set (outer ++ [name]) .directory := by
  simp only [makeDirectory, bind, Except.bind] at hmake
  cases hfound : disk.resolve cwd (Path.join base name) with
  | error problem => rw [hfound] at hmake; cases hmake
  | ok found =>
    obtain ⟨outer, hreach, hfits, rfl⟩ := (resolve_join_iff h).1 hfound
    rw [hfound] at hmake
    cases hentry : disk.lookup (outer ++ [name]) with
    | none =>
      simp only [hentry] at hmake
      exact ⟨outer, hreach, hfits, (Except.ok.inj hmake).symm⟩
    | some entry => simp [hentry] at hmake

/-- Nothing is made where something stands. -/
theorem makeDirectory_of_lookup (h : PlainName name) {outer : Location} {entry : Entry}
    (hreach : disk.Reaches cwd base outer) (hfits : Fits base name)
    (hentry : disk.lookup (outer ++ [name]) = some entry) :
    disk.makeDirectory cwd (Path.join base name) = .error .alreadyExists := by
  have hfound : disk.resolve cwd (Path.join base name) = .ok ⟨outer, .name name, false⟩ :=
    (resolve_join_iff h).2 ⟨outer, hreach, hfits, rfl⟩
  simp only [makeDirectory, hfound, hentry, bind, Except.bind]

/-- **Moving.** Within a directory a file goes from one name to the other. -/
theorem moveFile_join_ok {newName : Text} (h : PlainName name) (hnew : PlainName newName)
    (hne : newName ≠ name)
    (hmove : disk.moveFile cwd (Path.join base name) (Path.join base newName) = .ok disk') :
    ∃ outer content, disk.Reaches cwd base outer ∧ Fits base newName ∧
      disk.lookup (outer ++ [name]) = some (.file content) ∧
      disk.lookup (outer ++ [newName]) ≠ some .directory ∧
      disk' = (disk.erase (outer ++ [name])).set (outer ++ [newName]) (.file content) := by
  simp only [moveFile, bind, Except.bind] at hmove
  cases hfound : disk.resolve cwd (Path.join base name) with
  | error problem => rw [hfound] at hmove; cases hmove
  | ok found =>
    obtain ⟨outer, hreach, -, rfl⟩ := (resolve_join_iff h).1 hfound
    rw [hfound] at hmove
    cases hgoal : disk.resolve cwd (Path.join base newName) with
    | error problem => rw [hgoal] at hmove; cases hmove
    | ok goal =>
      obtain ⟨outer', hreach', hfits, rfl⟩ := (resolve_join_iff hnew).1 hgoal
      -- both names are resolved under the same base, so in the same directory
      obtain rfl := hreach.unique hreach'
      rw [hgoal] at hmove
      have hplace : ¬ outer ++ [name] = outer ++ [newName] := by simp [Ne.symm hne]
      cases hentry : disk.lookup (outer ++ [name]) with
      | none => simp [hentry] at hmove
      | some entry =>
        cases entry with
        | directory => simp [hentry] at hmove
        | file content =>
          simp only [hentry, Bool.false_eq_true, or_self, if_false, if_neg hplace] at hmove
          refine ⟨outer, content, hreach, hfits, hentry, ?_⟩
          -- an older file at the new name is replaced; only a directory there refuses
          cases htarget : disk.lookup (outer ++ [newName]) with
          | none =>
            rw [htarget] at hmove
            exact ⟨by simp, (Except.ok.inj hmove).symm⟩
          | some old =>
            rw [htarget] at hmove
            cases old with
            | directory => cases hmove
            | file old => exact ⟨by simp, (Except.ok.inj hmove).symm⟩

/-- **Removing.** A file is erased, and where one can be read nothing is missing. -/
theorem removeFile_join_ok (h : PlainName name)
    (hremove : disk.removeFile cwd (Path.join base name) = .ok disk') :
    ∃ outer content, disk.Reaches cwd base outer ∧
      disk.lookup (outer ++ [name]) = some (.file content) ∧ disk' = disk.erase (outer ++ [name]) := by
  simp only [removeFile, bind, Except.bind] at hremove
  cases hfound : disk.resolve cwd (Path.join base name) with
  | error problem => rw [hfound] at hremove; cases hremove
  | ok found =>
    obtain ⟨outer, hreach, -, rfl⟩ := (resolve_join_iff h).1 hfound
    rw [hfound] at hremove
    cases hentry : disk.lookup (outer ++ [name]) with
    | none => simp [hentry] at hremove
    | some entry =>
      cases entry with
      | directory => simp [hentry] at hremove
      | file content =>
        simp only [hentry, Bool.false_eq_true, if_false] at hremove
        exact ⟨outer, content, hreach, hentry, (Except.ok.inj hremove).symm⟩

/-- Where there is nothing to be removed there is nothing. -/
theorem entry?_of_removeFile {path : Path} (h : disk.removeFile cwd path = .error .notFound) :
    disk.entry? cwd path = none := by
  unfold removeFile at h
  unfold entry? stat
  cases hfound : disk.resolve cwd path with
  | error problem => rfl
  | ok found =>
    simp only [hfound, bind, Except.bind] at h ⊢
    -- of the cases of `removeFile` only a missing entry ends with this error
    cases hlast : found.last with
    | directory => simp only [hlast] at h; cases h
    | name name =>
      simp only [hlast] at h ⊢
      cases hentry : disk.lookup (found.parent ++ [name]) with
      | none => rfl
      | some entry =>
        simp only [hentry] at h
        cases entry with
        | directory => cases h
        | file content =>
          simp only at h
          split at h <;> cases h

end Disk

end MarkupDesk.Files
