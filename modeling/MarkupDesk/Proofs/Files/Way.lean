/-
`Proofs/Files/Way.lean` -- what an operation on a path looks at.

A path is followed name by name, and each name on the `way` is one entry to look at. The location
that the path names is the last of them. So an operation finds the same on two disks that have the
same entries on the way, it ends in the same way on both, and what it makes of them has the same
entries again (`Alike`), wherever the two disks had them.
-/
import MarkupDesk.Proofs.Files.Parent
import MarkupDesk.Proofs.Files.Target

set_option autoImplicit false

namespace MarkupDesk.Files.Disk

/-! ## 1. Ways -/

/-- The locations that the names lead to, one after the other. -/
def wayFrom (start : Location) : List Text → List Location
  | [] => []
  | name :: names => stepOf start name :: wayFrom (stepOf start name) names

/-- The locations on the way of a path. -/
def way (cwd : Location) (path : Path) : List Location :=
  wayFrom (startOf cwd path) (Path.pieces path)

/-- The disks have the same entries at these locations. -/
def AgreeOn (places : Location → Prop) (disk disk' : Disk) : Prop :=
  ∀ x, places x → disk.lookup x = disk'.lookup x

/-- Both operations fail for the same reason, or both give disks that agree. -/
def Alike (places : Location → Prop) : Except FileError Disk → Except FileError Disk → Prop
  | .ok disk, .ok disk' => AgreeOn places disk disk'
  | .error problem, .error problem' => problem = problem'
  | _, _ => False

variable {places : Location → Prop} {disk disk' : Disk} {cwd start : Location} {path goal : Path}
  {name : Text} {names : List Text}

/-- The way of names in two parts goes on where the first part ends. -/
theorem wayFrom_append (start : Location) (front back : List Text) :
    wayFrom start (front ++ back) = wayFrom start front ++ wayFrom (front.foldl stepOf start) back := by
  induction front generalizing start with
  | nil => rfl
  | cons name front ih => rw [List.cons_append, wayFrom, ih, wayFrom, List.cons_append, List.foldl_cons]

/-- Behind a path a name is one location more. -/
theorem way_join (cwd : Location) (base : Path) (h : Path.PlainName name) :
    way cwd (Path.join base name) = way cwd base ++ [target cwd base ++ [name]] := by
  rw [way, Path.pieces_join base h, startOf, Path.isAbsolute_join base h, ← startOf, wayFrom_append,
    ← way, ← target, wayFrom, wayFrom, stepOf_plain h]

/-- The way of a path goes on where that of a path above ends. -/
theorem way_above {p q : Path} (h : Path.Above q p) (cwd : Location) : way cwd q <+: way cwd p := by
  obtain ⟨back, hback⟩ := h.pieces
  have hstart : startOf cwd q = startOf cwd p := by rw [startOf, startOf, h.absolute]
  rw [way, way, ← hback, wayFrom_append, hstart]
  exact List.prefix_append _ _

theorem AgreeOn.set (h : AgreeOn places disk disk') (x : Location) (entry : Entry) :
    AgreeOn places (disk.set x entry) (disk'.set x entry) := by
  intro y hy
  by_cases hx : y = x
  · subst hx
    by_cases hroot : y = []
    · rw [hroot, lookup_nil, lookup_nil]
    · rw [lookup_set_self hroot, lookup_set_self hroot]
  · rw [lookup_set_of_ne hx, lookup_set_of_ne hx, h y hy]

theorem AgreeOn.erase (h : AgreeOn places disk disk') (x : Location) :
    AgreeOn places (disk.erase x) (disk'.erase x) := by
  intro y hy
  by_cases hx : y = x
  · subst hx
    by_cases hroot : y = []
    · rw [hroot, lookup_nil, lookup_nil]
    · rw [lookup_erase_self hroot, lookup_erase_self hroot]
  · rw [lookup_erase_of_ne hx, lookup_erase_of_ne hx, h y hy]

/-! ## 2. Following a path -/

/-- To enter a name is to look at one entry. -/
theorem enter_congr (h : disk.lookup (stepOf start name) = disk'.lookup (stepOf start name)) :
    disk.enter start name = disk'.enter start name := by
  unfold enter
  by_cases hdot : name = ['.']
  · rw [if_pos hdot, if_pos hdot]
  by_cases hdots : name = ['.', '.']
  · rw [if_neg hdot, if_pos hdots, if_neg hdot, if_pos hdots]
  rw [stepOf, if_neg hdot, if_neg hdots] at h
  rw [h]

/-- The names are followed alike. The induction is on the names; the last one is not entered. -/
theorem follow_congr (h : ∀ x ∈ wayFrom start names, disk.lookup x = disk'.lookup x) (slash : Bool) :
    disk.follow slash start names = disk'.follow slash start names := by
  induction names generalizing start with
  -- the last name is not entered, so the way does not hold it
  | nil => rfl
  | cons first names ih =>
    cases names with
    | nil => rfl
    | cons second names =>
      obtain ⟨hfirst, hrest⟩ := List.forall_mem_cons.1 h
      rw [follow, follow, ← enter_congr hfirst]
      · cases hnext : disk.enter start first with
        | error problem => rfl
        | ok next =>
          obtain rfl := enter_ok hnext
          exact ih hrest
      · exact List.cons_ne_nil second names
      · exact List.cons_ne_nil second names

/-- **A path is resolved the same** on two disks that have the same entries on its way. -/
theorem resolve_congr (h : ∀ x ∈ way cwd path, disk.lookup x = disk'.lookup x) :
    disk.resolve cwd path = disk'.resolve cwd path := by
  have hfollow := follow_congr h (path.getLast? == some '/')
  unfold resolve
  rw [startOf, Path.pieces] at hfollow
  rw [hfollow]

/-- The way ends at the target, and has it as one of its entries. -/
theorem target_mem_wayFrom (h : names ≠ []) : names.foldl stepOf start ∈ wayFrom start names := by
  induction names generalizing start with
  | nil => exact absurd rfl h
  | cons first names ih =>
    cases names with
    | nil => exact List.mem_cons_self
    | cons second names => exact List.mem_cons_of_mem _ (ih (List.cons_ne_nil second names))

/-- What a path resolves to is on its way. -/
theorem mem_way_of_resolve {found : Resolved} (h : disk.resolve cwd path = .ok found)
    (hlast : found.last = .name name) : found.parent ++ [name] ∈ way cwd path := by
  rw [resolve_ok h hlast]
  refine target_mem_wayFrom fun hnone => ?_
  -- a path without names leads to a directory that needs none
  unfold resolve at h
  have hpieces : (Text.splitOn '/' path).filter (!·.isEmpty) = [] := hnone
  rw [hpieces, follow] at h
  split at h
  · cases h
  split at h
  · cases h
  split at h
  · cases h
  · rw [← Except.ok.inj h] at hlast
    cases hlast

/-! ## 3. Operations -/

/-- What a path leads to is the same on two disks with the same entries on its way. -/
theorem stat_congr (h : ∀ x ∈ way cwd path, disk.lookup x = disk'.lookup x) :
    disk.stat cwd path = disk'.stat cwd path := by
  simp only [stat, bind, Except.bind, ← resolve_congr h]
  cases hfound : disk.resolve cwd path with
  | error problem => rfl
  | ok found =>
    obtain ⟨parent, last, slash⟩ := found
    cases last with
    | directory => rfl
    | name name => simp only [h _ (mem_way_of_resolve hfound rfl)]

theorem read_congr (h : ∀ x ∈ way cwd path, disk.lookup x = disk'.lookup x) :
    disk.read cwd path = disk'.read cwd path := by
  rw [read, read, stat_congr h]

section Changes

variable (h : AgreeOn places disk disk') (hway : ∀ x ∈ way cwd path, places x)

include h hway

/-- Writing ends in the same way on two disks that agree on its way, and leaves them alike. -/
theorem write_alike (content : Content) :
    Alike places (disk.write cwd path content) (disk'.write cwd path content) := by
  have hsame : ∀ x ∈ way cwd path, disk.lookup x = disk'.lookup x := fun x hx => h x (hway x hx)
  simp only [write, bind, Except.bind, ← resolve_congr hsame]
  cases hfound : disk.resolve cwd path with
  | error problem => exact rfl
  | ok found =>
    obtain ⟨parent, last, slash⟩ := found
    cases last with
    | directory => exact rfl
    | name name =>
      simp only [← hsame _ (mem_way_of_resolve hfound rfl)]
      split
      · exact rfl
      split
      · exact rfl
      · exact h.set _ _

/-- Making a directory ends in the same way on two disks that agree on its way. -/
theorem makeDirectory_alike :
    Alike places (disk.makeDirectory cwd path) (disk'.makeDirectory cwd path) := by
  have hsame : ∀ x ∈ way cwd path, disk.lookup x = disk'.lookup x := fun x hx => h x (hway x hx)
  simp only [makeDirectory, bind, Except.bind, ← resolve_congr hsame]
  cases hfound : disk.resolve cwd path with
  | error problem => exact rfl
  | ok found =>
    obtain ⟨parent, last, slash⟩ := found
    cases last with
    | directory => exact rfl
    | name name =>
      simp only [← hsame _ (mem_way_of_resolve hfound rfl)]
      split
      · exact rfl
      · exact h.set _ _

/-- Removing ends in the same way on two disks that agree on its way. -/
theorem removeFile_alike : Alike places (disk.removeFile cwd path) (disk'.removeFile cwd path) := by
  have hsame : ∀ x ∈ way cwd path, disk.lookup x = disk'.lookup x := fun x hx => h x (hway x hx)
  simp only [removeFile, bind, Except.bind, ← resolve_congr hsame]
  cases hfound : disk.resolve cwd path with
  | error problem => exact rfl
  | ok found =>
    obtain ⟨parent, last, slash⟩ := found
    cases last with
    | directory => exact rfl
    | name name =>
      simp only [← hsame _ (mem_way_of_resolve hfound rfl)]
      split
      · exact rfl
      · exact rfl
      split
      · exact rfl
      · exact h.erase _

/-- Moving ends in the same way on two disks that agree on both of its ways. Each question the
operation asks is answered by an entry on one of them. -/
theorem moveFile_alike (hgoal : ∀ x ∈ way cwd goal, places x) :
    Alike places (disk.moveFile cwd path goal) (disk'.moveFile cwd path goal) := by
  have hsame : ∀ x ∈ way cwd path, disk.lookup x = disk'.lookup x := fun x hx => h x (hway x hx)
  have hsame' : ∀ x ∈ way cwd goal, disk.lookup x = disk'.lookup x := fun x hx => h x (hgoal x hx)
  simp only [moveFile, bind, Except.bind, ← resolve_congr hsame, ← resolve_congr hsame']
  cases hfound : disk.resolve cwd path with
  | error problem => exact rfl
  | ok found =>
    cases hthere : disk.resolve cwd goal with
    | error problem => exact rfl
    | ok there =>
      obtain ⟨parent, last, slash⟩ := found
      obtain ⟨newParent, newLast, newSlash⟩ := there
      -- both names are looked up on the way, so each guard reads the same on the two trees
      cases last with
      | directory => cases newLast <;> exact rfl
      | name name =>
        cases newLast with
        | directory => exact rfl
        | name newName =>
          simp only [← hsame _ (mem_way_of_resolve hfound rfl),
            ← hsame' _ (mem_way_of_resolve hthere rfl)]
          split
          · exact rfl
          · exact rfl
          split
          · exact rfl
          split
          · exact rfl
          split
          · exact h
          · exact (h.erase _).set _ _

end Changes

end MarkupDesk.Files.Disk
