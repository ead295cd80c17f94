/-
`Proofs/Drafts/Slot.lean` -- the files of a store, and what saving one of them does.

A store has three kinds of files: the index, the id that was opened last, and the drafts.
Saving one of them changes what is read from it and nothing that is read from another
(`save_self`, `save_other`): their locations differ, no sibling file has the name of one of
them since its name begins with a dot, and the directories that a save makes are not below
a directory that is there. Removing a draft is like that too.
-/
import MarkupDesk.Drafts.Store
import MarkupDesk.Proofs.Files.Access
import MarkupDesk.Proofs.Text.Trim

set_option autoImplicit false

namespace MarkupDesk.Drafts

open Files (Location Entry Disk siblingName)
open MarkupDesk.Path (PlainName)
open MarkupDesk.Task (Ends)

/-! ## 1. Names made of ids -/

/-- Whatever the id is, only characters that may stand in a name stand in the name made of it;
the others are written as an underscore. -/
theorem isNameChar_of_mem {id : Text} {c : Char} (h : c ∈ componentName id) : isNameChar c = true := by
  unfold componentName at h
  simp only at h
  split at h
  · obtain rfl : c = '_' := List.mem_singleton.1 h
    decide
  · -- what is left of the masked id has only masked characters
    have hmask := (List.dropWhile_suffix _).subset ((Text.dropEndWhile_isPrefix _ _).subset h)
    obtain ⟨x, -, rfl⟩ := List.mem_map.1 hmask
    by_cases hx : isNameChar x = true
    · simp [hx]
    · simp only [hx, Bool.not_false, if_true]
      decide

/-- A name is made in any case: where nothing is left of the id, there is a name for that. -/
theorem componentName_ne_nil (id : Text) : componentName id ≠ [] := by
  unfold componentName
  simp only
  split
  · simp
  next h => simpa using h

/-- A name made of an id begins with no dot. -/
theorem head?_componentName (id : Text) : (componentName id).head? ≠ some '.' := by
  unfold componentName
  simp only
  split
  · decide
  next h =>
    intro hhead
    generalize hstart : (Text.maskWith (fun c => !isNameChar c) '_' id).dropWhile (· == '.') = start
      at h hhead
    -- dots are taken off the front first, and what is taken off the end leaves the front alone
    obtain ⟨behind, hbehind⟩ := Text.dropEndWhile_isPrefix (· == '.') start
    have hstartHead : start.head? = some '.' := by
      rw [← hbehind, List.head?_append, hhead]
      rfl
    have hnot := List.head?_dropWhile_not (· == '.') (Text.maskWith (fun c => !isNameChar c) '_' id)
    rw [hstart, hstartHead] at hnot
    simp at hnot

/-- A name made of an id ends with no dot. -/
theorem getLast?_componentName (id : Text) : (componentName id).getLast? ≠ some '.' := by
  unfold componentName
  simp only
  split
  · decide
  · intro hlast
    have hdot := Text.getLast?_dropEndWhile hlast
    simp at hdot

/-- So it is the name of an entry, one that a path may be joined with and that the system
takes as it is. -/
theorem plainName_componentName (id : Text) : PlainName (componentName id) := by
  have hslash : '/' ∉ componentName id := fun hmem => by
    have hname := isNameChar_of_mem hmem
    revert hname
    decide
  refine ⟨componentName_ne_nil id, hslash, ?_, ?_⟩
  · intro heq
    exact head?_componentName id (by rw [heq]; rfl)
  · intro heq
    exact head?_componentName id (by rw [heq]; rfl)

/-- The directory of the documents. -/
theorem plainName_drafts : PlainName ("drafts" : Text) := by decide +kernel

/-- The id is a file name already. -/
def IsClean (id : Text) : Prop := componentName id = id

/-- **Where nothing is masked and no dot is taken off**, the id is the name. -/
theorem isClean_of_ends {id : Text} (hne : id ≠ []) (hchars : ∀ c ∈ id, isNameChar c = true)
    (hfirst : id.head? ≠ some '.') (hlast : id.getLast? ≠ some '.') : IsClean id := by
  have hmask : Text.maskWith (fun c => !isNameChar c) '_' id = id := by
    rw [Text.maskWith]
    refine (List.map_congr_left fun c hc => ?_).trans (List.map_id id)
    simp [hchars c hc]
  -- a dot further in is kept, so only the two ends are looked at
  have hstart : id.dropWhile (· == '.') = id := by
    obtain ⟨c, rest, rfl⟩ := List.exists_cons_of_ne_nil hne
    have hc : ¬ (c == '.') = true := by simpa using hfirst
    rw [List.dropWhile_cons, if_neg hc]
  have hend : Text.dropEndWhile (· == '.') id = id := by
    refine Text.dropEndWhile_eq_self fun c hc => ?_
    have hdot : c ≠ '.' := fun heq => hlast (heq ▸ hc)
    simpa using hdot
  unfold IsClean componentName
  simp only [hmask, hstart, hend]
  rw [if_neg (by simpa using hne)]

/-- **A name made of an id is a file name already.** -/
theorem isClean_componentName (id : Text) : IsClean (componentName id) :=
  isClean_of_ends (componentName_ne_nil id) (fun _ hc => isNameChar_of_mem hc)
    (head?_componentName id) (getLast?_componentName id)

/-! ## 2. The files of a store -/

/-- A file of a store. -/
inductive Slot where
  | index
  | active
  | draft (id : Text)
  deriving DecidableEq, Repr

namespace Slot

/-- The name of the file. -/
def name : Slot → Text
  | index => "index.json"
  | active => "active.json"
  | draft id => componentName id ++ ".json"

/-- The directory of the file. -/
def folder (store : Store) : Slot → Path
  | index => store.directory
  | active => store.directory
  | draft _ => Path.join store.directory "drafts"

/-- The path of the file. -/
def path (store : Store) (slot : Slot) : Path := Path.join (slot.folder store) slot.name

/-- Where the directory of the file is, if that of the store is at `home`. -/
def place (home : Location) : Slot → Location
  | index => home
  | active => home
  | draft _ => home ++ [("drafts" : Text)]

/-- The file of a draft is its name with the ending of the format. -/
theorem name_draft (id : Text) : (draft id).name = componentName id ++ ['.', 'j', 's', 'o', 'n'] := rfl

/-- All files of a store have plain names. -/
theorem plainName_name (slot : Slot) : PlainName slot.name := by
  cases slot with
  | index => decide +kernel
  | active => decide +kernel
  | draft id =>
    obtain ⟨hne, hslash, -, -⟩ := plainName_componentName id
    rw [name_draft]
    -- with its ending the name is longer than dots
    refine ⟨by simp, by simp [hslash], ?_, ?_⟩
    · intro heq
      have hlength := congrArg List.length heq
      simp at hlength
    · intro heq
      have hlength := congrArg List.length heq
      simp at hlength

/-- No file of a store begins with a dot. Siblings do, and this is what keeps the two
apart. -/
theorem head?_name (slot : Slot) : slot.name.head? ≠ some '.' := by
  cases slot with
  | index => decide +kernel
  | active => decide +kernel
  | draft id =>
    rw [name_draft, List.head?_append]
    cases hid : (componentName id).head? with
    | none => exact absurd (List.head?_eq_none_iff.1 hid) (componentName_ne_nil id)
    | some c =>
      have hdot := head?_componentName id
      rw [hid] at hdot
      simpa using hdot

/-- No file of a store has the name of a sibling file. -/
theorem name_ne_siblingName (slot : Slot) (t : Text) : slot.name ≠ siblingName t := by
  intro heq
  exact slot.head?_name (by rw [heq]; rfl)

/-- The two files are different ones. -/
def Apart (slot other : Slot) : Prop :=
  ∀ home, slot.place home ++ [slot.name] ≠ other.place home ++ [other.name]

/-- Being apart goes both ways. -/
theorem Apart.symm {slot other : Slot} (h : slot.Apart other) : other.Apart slot :=
  fun home heq => h home heq.symm

/-- The three kinds of files are apart: index and active id by their names, a document by
being a directory further down. -/
theorem apart_index_active : index.Apart active := by
  intro home heq
  have hname : index.name = active.name := by simpa [place] using heq
  exact absurd hname (by decide +kernel)

theorem apart_index_draft (id : Text) : index.Apart (draft id) := by
  intro home heq
  have hlength := congrArg List.length heq
  simp [place] at hlength

theorem apart_active_draft (id : Text) : active.Apart (draft id) := by
  intro home heq
  have hlength := congrArg List.length heq
  simp [place] at hlength

/-- Two documents are apart if the names made of their ids are, which is less than different
ids. -/
theorem apart_draft_draft {id other : Text} (h : componentName id ≠ componentName other) :
    (draft id).Apart (draft other) := by
  intro home heq
  have hname : (draft id).name = (draft other).name := by simpa [place] using heq
  rw [name_draft, name_draft] at hname
  exact h (List.append_cancel_right hname)

end Slot

/-! ## 3. Where a store is -/

/-- The directory of the store has a name of its own in another directory. -/
def Store.Named (store : Store) : Prop :=
  ∃ base component, PlainName component ∧ store.directory = Path.join base component

/-- The store of a preset is named by its directory, which is made of the id of the preset. -/
theorem named_ofPreset (root : Path) (preset : Preset) : (Store.ofPreset root preset).Named :=
  ⟨root, componentName preset.id, plainName_componentName preset.id, rfl⟩

/-- The directory of the file is there. -/
def HasFolder (s : Session) (store : Store) (slot : Slot) : Prop :=
  ∃ location, s.disk.Reaches s.cwd (slot.folder store) location

variable {s after : Session} {store : Store} {slot other : Slot}

/-- The directory of a file is where the directory of the store says. -/
theorem exists_place {disk : Disk} {cwd location : Location}
    (h : disk.Reaches cwd (slot.folder store) location) :
    ∃ home, disk.Reaches cwd store.directory home ∧ location = slot.place home := by
  cases slot with
  | index => exact ⟨location, h, rfl⟩
  | active => exact ⟨location, h, rfl⟩
  | draft id =>
    obtain ⟨home, hhome, -, -, rfl⟩ := (Disk.reaches_join_iff plainName_drafts).1 h
    exact ⟨home, hhome, rfl⟩

/-- The directory that a save may make does not hide another file whose directory is there. -/
theorem exists_folder (hnamed : store.Named) (slot : Slot) :
    ∃ base component, PlainName component ∧ slot.folder store = Path.join base component ∧
      ∀ disk cwd other location, Disk.Reaches disk cwd (Slot.folder store other) location →
        ∃ parent, disk.Reaches cwd base parent ∧
          (disk.lookup (parent ++ [component]) = none →
            location ++ [other.name] ≠ parent ++ [component]) := by
  obtain ⟨base, component, hcomponent, hdirectory⟩ := hnamed
  -- every file of a store is below its directory, which is there then
  have habove : ∀ disk cwd other location, Disk.Reaches disk cwd (Slot.folder store other) location →
      ∃ parent, disk.Reaches cwd base parent ∧
        (disk.lookup (parent ++ [component]) = none →
          location ++ [other.name] ≠ parent ++ [component]) := by
    intro disk cwd other location hlocation
    obtain ⟨home, hhome, -⟩ := exists_place hlocation
    rw [hdirectory] at hhome
    obtain ⟨parent, hparent, -, hentry, -⟩ := (Disk.reaches_join_iff hcomponent).1 hhome
    refine ⟨parent, hparent, fun hnone => ?_⟩
    rw [hentry] at hnone
    cases hnone
  cases slot with
  | index => exact ⟨base, component, hcomponent, hdirectory, habove⟩
  | active => exact ⟨base, component, hcomponent, hdirectory, habove⟩
  | draft id =>
    refine ⟨store.directory, "drafts", plainName_drafts, rfl, ?_⟩
    intro disk cwd other location hlocation
    obtain ⟨home, hhome, rfl⟩ := exists_place hlocation
    refine ⟨home, hhome, fun hnone heq => ?_⟩
    cases other with
    | index =>
      have hname : Slot.index.name = ("drafts" : Text) := by simpa [Slot.place] using heq
      exact absurd hname (by decide +kernel)
    | active =>
      have hname : Slot.active.name = ("drafts" : Text) := by simpa [Slot.place] using heq
      exact absurd hname (by decide +kernel)
    | draft other =>
      have hlength := congrArg List.length heq
      simp [Slot.place] at hlength

/-- The sibling of a file is in the directory of the file. -/
theorem siblingPath_slot (hnamed : store.Named) (slot : Slot) :
    Files.siblingPath (slot.path store) = Path.join (slot.folder store) (siblingName slot.name) := by
  obtain ⟨base, component, hcomponent, hfolder, -⟩ := exists_folder hnamed slot
  rw [Slot.path, hfolder, Files.siblingPath_join base hcomponent slot.plainName_name]

/-! ## 4. Saving -/

/-- What a save did that ended well. -/
theorem save_ok {value : Json} (hnamed : store.Named)
    (h : Ends (Store.save (slot.path store) value) s (.ok ()) after) :
    ∃ home, after = { s with disk := after.disk } ∧
      after.disk.Reaches s.cwd (slot.folder store) (slot.place home) ∧
      Disk.Fits (slot.folder store) slot.name ∧
      after.disk.lookup (slot.place home ++ [slot.name]) = some (.file (.text value.pretty)) ∧
      (∀ x, s.disk.lookup x = some .directory → after.disk.lookup x = some .directory) ∧
      ∀ other location, slot.Apart other → s.disk.Reaches s.cwd (other.folder store) location →
        after.disk.lookup (location ++ [other.name]) = s.disk.lookup (location ++ [other.name]) := by
  obtain ⟨base, component, hcomponent, hfolder, habove⟩ := exists_folder hnamed slot
  have hwrite := Task.ends_mapError_ok.1 h
  rw [Slot.path, hfolder] at hwrite
  obtain ⟨grown, outer, hgrown, hnew, hreach, hfits, htarget, hsibling, rfl⟩ :=
    Files.writeWhole_ok hcomponent slot.plainName_name hwrite
  rw [← hfolder] at hreach hfits
  obtain ⟨home, hhome, rfl⟩ := exists_place hreach
  have hdirectory : ∀ x, s.disk.lookup x = some .directory →
      (grown.replaceFile (slot.place home) slot.name value.pretty).lookup x = some .directory :=
    fun x hx => Disk.replaceFile_directory htarget hsibling (hgrown.directory hx)
  refine ⟨home, rfl, hreach.mono fun x hx => Disk.replaceFile_directory htarget hsibling hx, hfits,
    Disk.lookup_replaceFile_self _ _ _ _, hdirectory, fun other location hapart hother => ?_⟩
  -- the other file is at its place under the same directory
  obtain ⟨home', hhome', rfl⟩ := exists_place (hother.mono fun x hx => hgrown.directory hx)
  obtain rfl := hhome.unique hhome'
  have hname : other.place home ++ [other.name] ≠ slot.place home ++ [slot.name] := (hapart home).symm
  have hsiblingName : other.place home ++ [other.name] ≠
      slot.place home ++ [siblingName slot.name] := fun heq => by
    have hlast := List.append_inj_right' heq rfl
    exact other.name_ne_siblingName slot.name (List.cons.inj hlast).1
  rw [Disk.lookup_replaceFile_of_ne hname hsiblingName]
  obtain ⟨parent, hparent, hnotNew⟩ := habove _ _ _ _ hother
  rcases hnew parent hparent with rfl | ⟨hnone, rfl⟩
  · rfl
  · exact Disk.lookup_set_of_ne (hnotNew hnone) _ _

/-- A save changes the disk only. -/
theorem save_disk {value : Json} (hnamed : store.Named)
    (h : Ends (Store.save (slot.path store) value) s (.ok ()) after) :
    after = { s with disk := after.disk } :=
  (save_ok hnamed h).choose_spec.1

/-- Behind a save the directory of the file is there. -/
theorem save_folder {value : Json} (hnamed : store.Named)
    (h : Ends (Store.save (slot.path store) value) s (.ok ()) after) : HasFolder after store slot := by
  obtain ⟨home, hsame, hreach, -⟩ := save_ok hnamed h
  rw [hsame]
  exact ⟨slot.place home, hreach⟩

/-- Directories that are there stay. -/
theorem save_hasFolder {value : Json} (hnamed : store.Named)
    (h : Ends (Store.save (slot.path store) value) s (.ok ()) after)
    (hother : HasFolder s store other) : HasFolder after store other := by
  obtain ⟨location, hlocation⟩ := hother
  obtain ⟨home, hsame, -, -, -, hdirectory, -⟩ := save_ok hnamed h
  rw [hsame]
  exact ⟨location, hlocation.mono hdirectory⟩

/-- What stands in a file of the store. -/
def entryOf (s : Session) (store : Store) (slot : Slot) : Option Entry :=
  s.disk.entry? s.cwd (slot.path store)

/-- The file of a value. -/
def document (value : Json) : Entry := .file (.text value.pretty)

/-- **A save leaves the file of the value.** -/
theorem save_self {value : Json} (hnamed : store.Named)
    (h : Ends (Store.save (slot.path store) value) s (.ok ()) after) :
    entryOf after store slot = some (document value) := by
  obtain ⟨home, hsame, hreach, hfits, hentry, -⟩ := save_ok hnamed h
  have hcwd : after.cwd = s.cwd := by rw [hsame]
  rw [entryOf, hcwd]
  exact (Disk.entry?_join_iff slot.plainName_name).2 ⟨slot.place home, hreach, hfits, hentry⟩

/-- **A save changes no other file.** -/
theorem save_other {value : Json} (hnamed : store.Named) (hapart : slot.Apart other)
    (hother : HasFolder s store other)
    (h : Ends (Store.save (slot.path store) value) s (.ok ()) after) :
    entryOf after store other = entryOf s store other := by
  obtain ⟨location, hlocation⟩ := hother
  obtain ⟨home, hsame, -, -, -, hdirectory, hframe⟩ := save_ok hnamed h
  have hcwd : after.cwd = s.cwd := by rw [hsame]
  have hlookup := hframe other location hapart hlocation
  have hafter := hlocation.mono hdirectory
  rw [entryOf, entryOf, hcwd, Slot.path]
  -- both ways the path leads to the same location, where the save has changed nothing
  apply Option.ext
  intro entry
  rw [Disk.entry?_join_iff other.plainName_name, Disk.entry?_join_iff other.plainName_name]
  constructor
  · rintro ⟨outer, hreach, hfits, hentry⟩
    obtain rfl := hafter.unique hreach
    exact ⟨location, hlocation, hfits, by rw [← hlookup, hentry]⟩
  · rintro ⟨outer, hreach, hfits, hentry⟩
    obtain rfl := hlocation.unique hreach
    exact ⟨location, hafter, hfits, by rw [hlookup, hentry]⟩

/-! ## 5. Removing -/

/-- A removal that ended well: the file is gone, or there was nothing. -/
theorem remove_ok (h : Ends (Files.removeIfPresent (slot.path store)) s (.ok ()) after) :
    (∃ location content, s.disk.Reaches s.cwd (slot.folder store) location ∧
        s.disk.lookup (location ++ [slot.name]) = some (.file content) ∧
        after = { s with disk := s.disk.erase (location ++ [slot.name]) }) ∨
      (after = s ∧ entryOf s store slot = none) :=
  Files.removeIfPresent_ok slot.plainName_name h

/-- Erasing a file takes no directory away. -/
theorem erase_directory {disk : Disk} {location x : Location} {content : Files.Content}
    (hentry : disk.lookup location = some (.file content)) (hx : disk.lookup x = some .directory) :
    (disk.erase location).lookup x = some .directory := by
  rw [Disk.lookup_erase_of_ne, hx]
  rintro rfl
  rw [hx] at hentry
  cases hentry

/-- Removing a draft leaves all folders of the store where they are. -/
theorem remove_hasFolder (h : Ends (Files.removeIfPresent (slot.path store)) s (.ok ()) after)
    (hother : HasFolder s store other) : HasFolder after store other := by
  rcases remove_ok h with ⟨location, content, -, hentry, rfl⟩ | ⟨rfl, -⟩
  · obtain ⟨place, hplace⟩ := hother
    exact ⟨place, hplace.mono fun x hx => erase_directory hentry hx⟩
  · exact hother

/-- **A removed file is not there any more.** -/
theorem remove_self (h : Ends (Files.removeIfPresent (slot.path store)) s (.ok ()) after) :
    entryOf after store slot = none := by
  rcases remove_ok h with ⟨location, content, hlocation, hentry, rfl⟩ | ⟨rfl, hnone⟩
  · apply Option.eq_none_iff_forall_ne_some.2
    intro entry hfound
    obtain ⟨outer, hreach, -, hfile⟩ := (Disk.entry?_join_iff slot.plainName_name).1 hfound
    have hafter : (s.disk.erase (location ++ [slot.name])).Reaches s.cwd (slot.folder store) location :=
      hlocation.mono fun x hx => erase_directory hentry hx
    obtain rfl : location = outer := hafter.unique hreach
    rw [Disk.lookup_erase_self (Disk.location_ne_nil _ _)] at hfile
    cases hfile
  · exact hnone

/-- **A removal changes no other file.** -/
theorem remove_other (hapart : slot.Apart other)
    (h : Ends (Files.removeIfPresent (slot.path store)) s (.ok ()) after) :
    entryOf after store other = entryOf s store other := by
  rcases remove_ok h with ⟨location, content, hlocation, hentry, rfl⟩ | ⟨rfl, -⟩
  · obtain ⟨home, hhome, rfl⟩ := exists_place hlocation
    -- an entry that is left was there before
    have hsame : ∀ {x y}, (s.disk.erase (slot.place home ++ [slot.name])).lookup x = some y →
        s.disk.lookup x = some y := by
      intro x y hx
      by_cases herased : x = slot.place home ++ [slot.name]
      · rw [herased, Disk.lookup_erase_self (Disk.location_ne_nil _ _)] at hx
        cases hx
      · rwa [Disk.lookup_erase_of_ne herased] at hx
    apply Option.ext
    intro entry
    rw [entryOf, entryOf, Slot.path, Disk.entry?_join_iff other.plainName_name,
      Disk.entry?_join_iff other.plainName_name]
    constructor
    · rintro ⟨outer, hreach, hfits, hfile⟩
      exact ⟨outer, hreach.mono fun x hx => hsame hx, hfits, hsame hfile⟩
    · rintro ⟨outer, hreach, hfits, hfile⟩
      obtain ⟨home', hhome', rfl⟩ := exists_place hreach
      obtain rfl := hhome.unique hhome'
      refine ⟨other.place home, hreach.mono fun x hx => erase_directory hentry hx, hfits, ?_⟩
      rw [Disk.lookup_erase_of_ne (hapart home).symm, hfile]
  · rfl

end MarkupDesk.Drafts
