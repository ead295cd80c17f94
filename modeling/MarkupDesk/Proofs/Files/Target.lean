/-
`Proofs/Files/Target.lean` -- the location that a path names.

A disk has no links, so the location that a path leads to can be read off the path: `.` stays,
`..` goes up, and every other name goes down (`target`). Whatever a path reaches, resolves to
or has changed is at its target, whether the names on the way are there or not; so two paths
with different targets never get in each other's way.
-/
import MarkupDesk.Proofs.Files.Reach

set_option autoImplicit false

namespace MarkupDesk.Files.Disk

open MarkupDesk.Path (PlainName)

/-! ## 1. Targets -/

/-- The location that a name leads to. -/
def stepOf (location : Location) (name : Text) : Location :=
  if name = ['.'] then location
  else if name = ['.', '.'] then location.dropLast
  else location ++ [name]

/-- The location that a path names. -/
def target (cwd : Location) (path : Path) : Location :=
  (Path.pieces path).foldl stepOf (startOf cwd path)

variable {disk disk' : Disk} {cwd location : Location} {base path : Path} {name : Text}

theorem stepOf_plain (h : PlainName name) (location : Location) :
    stepOf location name = location ++ [name] := by
  rw [stepOf, if_neg h.2.2.1, if_neg h.2.2.2]

/-- The target of a joined path is one name below the target of its base. -/
theorem target_join (cwd : Location) (base : Path) (h : PlainName name) :
    target cwd (Path.join base name) = target cwd base ++ [name] := by
  rw [target, Path.pieces_join base h, startOf, Path.isAbsolute_join base h, ← startOf,
    List.foldl_append, ← target]
  exact stepOf_plain h _

/-- The same for names that may lead back. -/
theorem target_join_of_notMem (cwd : Location) (base : Path) (hne : name ≠ []) (hslash : '/' ∉ name) :
    target cwd (Path.join base name) = stepOf (target cwd base) name := by
  have hhead : Path.isAbsolute name = false := by
    cases name with
    | nil => exact absurd rfl hne
    | cons c name =>
      have hc : c ≠ '/' := fun heq => hslash (heq ▸ List.mem_cons_self)
      simpa [Path.isAbsolute] using hc
  have hpieces : Path.pieces name = [name] := by
    rw [Path.pieces, Text.splitOn_of_notMem hslash]
    simp [hne]
  have hbehind : ∀ front : Path, Path.pieces (front ++ '/' :: name) = Path.pieces front ++ [name] := by
    intro front
    rw [← hpieces, Path.pieces, Text.splitOn_append, List.filter_append, Path.pieces, Path.pieces]
  have hrelative : ¬ Path.isAbsolute name = true := by simp [hhead]
  rw [target, Path.join, if_neg hrelative]
  by_cases hempty : base = []
  · subst hempty
    rw [if_pos (.inl rfl), List.nil_append, hpieces, startOf, if_neg hrelative]
    rfl
  by_cases hlast : base.getLast? = some '/'
  · obtain ⟨front, rfl⟩ := List.getLast?_eq_some_iff.1 hlast
    -- the separator at the end is no piece
    have hfront : Path.pieces (front ++ ['/']) = Path.pieces front := by
      have hsplit : Text.splitOn '/' (front ++ ['/']) = Text.splitOn '/' front ++ [[]] :=
        Text.splitOn_append '/' front []
      rw [Path.pieces, hsplit, List.filter_append, Path.pieces]
      simp
    have hstart : startOf cwd (front ++ '/' :: name) = startOf cwd (front ++ ['/']) := by
      cases front <;> rfl
    rw [if_pos (.inr hlast), List.append_assoc, List.singleton_append, hbehind, hstart,
      List.foldl_append, target, hfront]
    rfl
  · have hnot : ¬ (base.isEmpty = true ∨ base.getLast? = some '/') := by simp [hempty, hlast]
    have hstart : startOf cwd (base ++ '/' :: name) = startOf cwd base := by
      obtain ⟨c, rest, rfl⟩ := List.exists_cons_of_ne_nil hempty
      rfl
    rw [if_neg hnot, hbehind, hstart, List.foldl_append, target]
    rfl

/-- Where a name was entered, the next location is the one that is read off the name. -/
theorem enter_ok {start next : Location} (h : disk.enter start name = .ok next) :
    next = stepOf start name := by
  unfold enter at h
  unfold stepOf
  by_cases hdot : name = ['.']
  · rw [if_pos hdot] at h ⊢
    exact (Except.ok.inj h).symm
  by_cases hdots : name = ['.', '.']
  · rw [if_neg hdot, if_pos hdots] at h ⊢
    exact (Except.ok.inj h).symm
  rw [if_neg hdot, if_neg hdots] at h ⊢
  split at h
  · cases h
  · split at h
    · exact (Except.ok.inj h).symm
    · cases h
    · cases h

/-- Names lead to the location that they name, if they lead anywhere. -/
theorem walk_ok {names : List Text} {start : Location} (h : disk.walk start names = .ok location) :
    location = names.foldl stepOf start := by
  induction names generalizing start with
  | nil => exact (Except.ok.inj h).symm
  | cons name names ih =>
    rw [walk] at h
    cases hnext : disk.enter start name with
    | error problem => rw [hnext] at h; cases h
    | ok next =>
      rw [hnext] at h
      rw [List.foldl_cons, ← enter_ok hnext]
      exact ih h

/-- **A path reaches nothing but its target.** -/
theorem Reaches.eq_target (h : disk.Reaches cwd path location) : location = target cwd path := walk_ok h

/-- What names lead to is read off the names. The induction is on the names; dots at the end
leave no last name, so that only a plain one is left there. -/
theorem follow_ok {names : List Text} {slash : Bool} {start : Location} {found : Resolved}
    (h : disk.follow slash start names = .ok found) (hlast : found.last = .name name) :
    found.parent ++ [name] = names.foldl stepOf start := by
  induction names generalizing start with
  | nil =>
    rw [← Except.ok.inj h] at hlast
    cases hlast
  | cons first names ih =>
    cases names with
    | nil =>
      unfold follow at h
      by_cases hdot : first = ['.']
      · rw [if_pos hdot] at h
        rw [← Except.ok.inj h] at hlast
        cases hlast
      by_cases hdots : first = ['.', '.']
      · rw [if_neg hdot, if_pos hdots] at h
        rw [← Except.ok.inj h] at hlast
        cases hlast
      rw [if_neg hdot, if_neg hdots] at h
      split at h
      · cases h
      -- a name that is short enough goes down
      · rw [← Except.ok.inj h] at hlast ⊢
        obtain rfl := LastStep.name.inj hlast
        rw [List.foldl_cons, List.foldl_nil, stepOf, if_neg hdot, if_neg hdots]
    | cons second names =>
      rw [follow] at h
      · cases hnext : disk.enter start first with
        | error problem =>
          rw [hnext] at h
          cases h
        | ok next =>
          rw [hnext] at h
          rw [List.foldl_cons, ← enter_ok hnext]
          exact ih h
      · exact List.cons_ne_nil _ _

/-- **What a path resolves to is at its target**, whatever is on the disk. -/
theorem resolve_ok {found : Resolved} (h : disk.resolve cwd path = .ok found)
    (hlast : found.last = .name name) : found.parent ++ [name] = target cwd path := by
  unfold resolve at h
  split at h
  · cases h
  split at h
  · cases h
  split at h
  · cases h
  · exact follow_ok h hlast

/-! ## 2. Files -/

/-- The content of the file at a location. -/
def file? (disk : Disk) (location : Location) : Option Content :=
  match disk.lookup location with
  | some (.file content) => some content
  | _ => none

/-- The file at a location is the content of its entry. -/
theorem file?_eq_some {content : Content} :
    disk.file? location = some content ↔ disk.lookup location = some (.file content) := by
  unfold file?
  cases disk.lookup location with
  | none => simp
  | some entry => cases entry <;> simp

theorem file?_congr (h : disk'.lookup location = disk.lookup location) :
    disk'.file? location = disk.file? location := by
  rw [file?, file?, h]

theorem file?_set_self (h : location ≠ []) (disk : Disk) (content : Content) :
    (disk.set location (.file content)).file? location = some content :=
  file?_eq_some.2 (lookup_set_self h disk (.file content))

theorem file?_set_of_ne {other : Location} (h : other ≠ location) (disk : Disk) (entry : Entry) :
    (disk.set location entry).file? other = disk.file? other :=
  file?_congr (lookup_set_of_ne h disk entry)

theorem file?_erase_self (h : location ≠ []) (disk : Disk) :
    (disk.erase location).file? location = none := by
  rw [file?, lookup_erase_self h]

theorem file?_erase_of_ne {other : Location} (h : other ≠ location) (disk : Disk) :
    (disk.erase location).file? other = disk.file? other :=
  file?_congr (lookup_erase_of_ne h disk)

/-- **A file that a path leads to** is at the target, and only directories decide whether the
path leads there. -/
theorem entry?_eq_file_iff (h : PlainName name) {content : Content} :
    disk.entry? cwd (Path.join base name) = some (.file content) ↔
      (∃ outer, disk.Reaches cwd base outer) ∧ Fits base name ∧
        disk.file? (target cwd (Path.join base name)) = some content := by
  rw [entry?_join_iff h, target_join cwd base h, file?_eq_some]
  constructor
  · rintro ⟨outer, hreach, hfits, hentry⟩
    exact ⟨⟨outer, hreach⟩, hfits, hreach.eq_target ▸ hentry⟩
  · rintro ⟨⟨outer, hreach⟩, hfits, hentry⟩
    exact ⟨outer, hreach, hfits, hreach.eq_target ▸ hentry⟩

/-! ## 3. What operations change -/

/-- Writing sets the target, where no directory stands. The cases follow the order in which
the operation asks: for the path, for its last name, for the entry. -/
theorem write_ok {content : Content} (h : disk.write cwd path content = .ok disk') :
    target cwd path ≠ [] ∧ disk.lookup (target cwd path) ≠ some .directory ∧
      disk' = disk.set (target cwd path) (.file content) := by
  simp only [write, bind, Except.bind] at h
  cases hfound : disk.resolve cwd path with
  | error problem => rw [hfound] at h; cases h
  | ok found =>
    rw [hfound] at h
    cases hlast : found.last with
    | directory => simp only [hlast] at h; cases h
    | name name =>
      simp only [hlast] at h
      have htarget := resolve_ok hfound hlast
      rw [htarget] at h
      have hne : target cwd path ≠ [] := htarget ▸ location_ne_nil _ _
      -- a slash at the end asks for a directory
      split at h
      · cases h
      cases hentry : disk.lookup (target cwd path) with
      | none =>
        rw [hentry] at h
        exact ⟨hne, by simp, (Except.ok.inj h).symm⟩
      | some entry =>
        rw [hentry] at h
        cases entry with
        | directory => cases h
        | file old => exact ⟨hne, by simp, (Except.ok.inj h).symm⟩

/-- Removing erases the target, which is a file: a missing entry and a directory are
refused. -/
theorem removeFile_ok (h : disk.removeFile cwd path = .ok disk') :
    ∃ content, disk.file? (target cwd path) = some content ∧ disk' = disk.erase (target cwd path) := by
  simp only [removeFile, bind, Except.bind] at h
  cases hfound : disk.resolve cwd path with
  | error problem => rw [hfound] at h; cases h
  | ok found =>
    rw [hfound] at h
    cases hlast : found.last with
    | directory => simp only [hlast] at h; cases h
    | name name =>
      simp only [hlast, resolve_ok hfound hlast] at h
      cases hentry : disk.lookup (target cwd path) with
      | none => rw [hentry] at h; cases h
      | some entry =>
        rw [hentry] at h
        cases entry with
        | directory => cases h
        | file content =>
          simp only at h
          split at h
          · cases h
          · exact ⟨content, file?_eq_some.2 hentry, (Except.ok.inj h).symm⟩

/-- Moving erases one target and sets the other, unless they are the same. Both paths must end
in a name, what is moved is a file, and the goal is no directory. -/
theorem moveFile_ok {goal : Path} (h : disk.moveFile cwd path goal = .ok disk') :
    ∃ content, disk.file? (target cwd path) = some content ∧
      (∃ parent name, disk.resolve cwd goal = .ok ⟨parent, .name name, false⟩) ∧
      target cwd goal ≠ [] ∧ disk.lookup (target cwd goal) ≠ some .directory ∧
      ((target cwd path = target cwd goal ∧ disk' = disk) ∨
        disk' = (disk.erase (target cwd path)).set (target cwd goal) (.file content)) := by
  simp only [moveFile, bind, Except.bind] at h
  cases hfound : disk.resolve cwd path with
  | error problem => rw [hfound] at h; cases h
  | ok found =>
    rw [hfound] at h
    cases hgoal : disk.resolve cwd goal with
    | error problem => rw [hgoal] at h; cases h
    | ok there =>
      rw [hgoal] at h
      cases hlast : found.last with
      | directory => simp only [hlast] at h; cases h
      | name name =>
        cases hnew : there.last with
        | directory => simp only [hlast, hnew] at h; cases h
        | name newName =>
          have hne : target cwd goal ≠ [] := resolve_ok hgoal hnew ▸ location_ne_nil _ _
          simp only [hlast, hnew, resolve_ok hfound hlast, resolve_ok hgoal hnew] at h
          cases hentry : disk.lookup (target cwd path) with
          | none => simp [hentry] at h
          | some entry =>
            cases entry with
            | directory => simp [hentry] at h
            | file content =>
              simp only [hentry] at h
              split at h
              · cases h
              next hslash =>
                have hgoal' : there = ⟨there.parent, .name newName, false⟩ := by
                  rw [← hnew, ← Bool.eq_false_iff.2 fun hslashed => hslash (.inr hslashed)]
                refine ⟨content, file?_eq_some.2 hentry, ⟨_, _, congrArg Except.ok hgoal'⟩, hne, ?_⟩
                split at h
                · cases h
                -- moved onto itself the file stays, or else it goes and comes
                next hnot =>
                  refine ⟨hnot, ?_⟩
                  split at h
                  next hsame => exact .inl ⟨hsame, (Except.ok.inj h).symm⟩
                  next => exact .inr (Except.ok.inj h).symm

end MarkupDesk.Files.Disk
