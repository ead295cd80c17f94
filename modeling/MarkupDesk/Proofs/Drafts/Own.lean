/-
`Proofs/Drafts/Own.lean` -- a store keeps to its own files.

Whatever the id of a preset is, the name made of it is that of one entry in the directory for all
drafts, and whatever the id of a draft is, the name made of it is that of one entry in the
directory of the store (`isComponent_componentName`). So the files that an operation uses are the
index, the id that was opened last, documents, and the siblings through which these are written
(`Store.own`, `Step.uses`). All of them are below the directory of the store (`prefix_target_own`),
and no sibling can be taken for one of the others (`fileName?_siblingPath_ne`).

What this excludes is told about disks as well: an operation changes nothing elsewhere, and what it
ends with does not depend on what stands elsewhere, but for the way to the directory of all drafts
(`mem_places_own`).
-/
import MarkupDesk.Proofs.Drafts.Separation

set_option autoImplicit false

namespace MarkupDesk.Drafts

open Files (Disk Location siblingName)
open MarkupDesk.Path (PlainName)

/-! ## 1. Names -/

/-- The text is the name of one entry of a directory. Nothing is left in it to be replaced or taken
off. -/
structure IsComponent (name : Text) : Prop where
  plain : PlainName name
  single : Path.components name = [name]
  chars : ∀ c ∈ name, isNameChar c = true
  first : name.head? ≠ some '.'
  last : name.getLast? ≠ some '.'
  clean : IsClean name

/-- Whatever an id is, the name made of it is the name of one entry: it is not empty, it has
no separator, and it is neither of the two names with a meaning of their own. -/
theorem isComponent_componentName (id : Text) : IsComponent (componentName id) where
  plain := plainName_componentName id
  single := Path.components_of_plain (plainName_componentName id)
  chars := fun _ hc => isNameChar_of_mem hc
  first := head?_componentName id
  last := getLast?_componentName id
  clean := isClean_componentName id

/-- No sibling file has the name of one of the store's own files, so writing one document
through its sibling cannot overwrite another. -/
theorem fileName?_siblingPath_ne (path : Path) (slot : Slot) :
    Path.fileName? (Files.siblingPath path) ≠ some slot.name := by
  rw [Files.fileName?_siblingPath]
  intro heq
  exact slot.name_ne_siblingName _ (Option.some.inj heq).symm

/-! ## 2. Paths -/

/-- What belongs to the store: its files and their siblings, and the directories that contain
them. -/
def Store.own (store : Store) : Files.Permit where
  file path := ∃ slot : Slot,
    path = slot.path store ∨ path = Path.join (slot.folder store) (siblingName slot.name)
  directory path := ∃ slot : Slot, path ∈ Path.ancestors (slot.folder store)

variable {root : Path} {preset : Preset} {α : Type} {action : StateM Session α}

/-- **Each step uses what belongs to the store.** -/
theorem Store.Step.uses (h : (Store.ofPreset root preset).Step α action) :
    Files.Uses (Store.ofPreset root preset).own action := by
  have hfile : ∀ slot : Slot,
      (Store.ofPreset root preset).own.file (slot.path (Store.ofPreset root preset)) :=
    fun slot => ⟨slot, .inl rfl⟩
  cases h with
  | clock => exact .step .clock
  | token => exact .step .token
  | find slot => exact .step (.find (hfile slot))
  | load slot reader fallback => exact Files.uses_loadRecord (hfile slot) reader fallback
  | save slot value =>
    have hsibling := siblingPath_slot (named_ofPreset root preset) slot
    refine .task_mapError _ (Files.uses_writeWhole (hfile slot) ⟨slot, .inr hsibling⟩ ?_)
    -- the directories that are made are those that contain the file
    intro directory hdirectory above habove
    rw [parent?_slot, Option.mem_some_iff] at hdirectory
    exact ⟨slot, hdirectory ▸ habove⟩
  | remove id => exact .task_mapError _ (Files.uses_removeIfPresent (hfile (.draft id)))

/-! ## 3. Locations -/

/-- The names of the files and their siblings. -/
theorem exists_name_of_own {store : Store} {path : Path} (h : store.own.file path) :
    ∃ (slot : Slot) (name : Text), PlainName name ∧ path = Path.join (slot.folder store) name := by
  obtain ⟨slot, rfl | rfl⟩ := h
  · exact ⟨slot, slot.name, slot.plainName_name, rfl⟩
  · exact ⟨slot, siblingName slot.name, Files.plainName_siblingName slot.plainName_name, rfl⟩

/-- **The files are below the directory of the store**, wherever the directory for all drafts is. -/
theorem prefix_target_own {path : Path} (cwd : Location)
    (h : (Store.ofPreset root preset).own.file path) :
    Disk.target cwd root ++ [componentName preset.id] <+: Disk.target cwd path := by
  obtain ⟨slot, name, hname, rfl⟩ := exists_name_of_own h
  rw [Disk.target_join cwd _ hname, target_folder (in_ofPreset rfl preset)]
  exact prefix_place _ slot name

/-- On the way to a folder of the store are the way to the directory of all drafts and places
within the preset's own directory, nothing else. -/
theorem mem_way_folder {cwd x : Location} (slot : Slot)
    (h : x ∈ Disk.way cwd (slot.folder (Store.ofPreset root preset))) :
    x ∈ Disk.way cwd root ∨ Disk.target cwd root ++ [componentName preset.id] <+: x := by
  have hname := plainName_componentName preset.id
  have hstore : ∀ x ∈ Disk.way cwd (Store.ofPreset root preset).directory,
      x ∈ Disk.way cwd root ∨ Disk.target cwd root ++ [componentName preset.id] <+: x := by
    intro x hx
    rw [Store.ofPreset, Disk.way_join cwd root hname] at hx
    rcases List.mem_append.1 hx with hx | hx
    · exact .inl hx
    · exact .inr (List.mem_singleton.1 hx ▸ List.prefix_rfl)
  cases slot with
  | index => exact hstore x h
  | active => exact hstore x h
  -- documents are one directory further down, and so is their way
  | draft id =>
    rw [Slot.folder, Disk.way_join cwd _ plainName_drafts] at h
    rcases List.mem_append.1 h with h | h
    · exact hstore x h
    · rw [List.mem_singleton.1 h, (in_ofPreset rfl preset).place]
      exact .inr (List.prefix_append _ _)

/-- **What is looked at** is on the way to the directory for all drafts or below that of the
store. -/
theorem mem_places_own {cwd x : Location} (h : (Store.ofPreset root preset).own.places cwd x) :
    x ∈ Disk.way cwd root ∨ Disk.target cwd root ++ [componentName preset.id] <+: x := by
  obtain ⟨path, hfile | ⟨slot, hdirectory⟩, hx⟩ := h
  · obtain ⟨slot, name, hname, rfl⟩ := exists_name_of_own hfile
    rw [Disk.way_join cwd _ hname] at hx
    rcases List.mem_append.1 hx with hx | hx
    · exact mem_way_folder slot hx
    · rw [List.mem_singleton.1 hx, target_folder (in_ofPreset rfl preset)]
      exact .inr (prefix_place _ slot name)
  · -- the way to a directory above is the first part of the way to the directory of the file
    have habove := Path.above_of_mem_ancestors hdirectory
    exact mem_way_folder slot ((Disk.way_above habove cwd).subset hx)

/-! ## 4. Operations -/

/-- The operations on the store of a preset, the one that opens it included. -/
inductive Operation (root : Path) (preset : Preset) : {α : Type} → StateM Session α → Prop where
  | openFor : Operation root preset (Store.openFor root preset).run
  | index : Operation root preset (Store.ofPreset root preset).index
  | list : Operation root preset (Store.ofPreset root preset).list
  | activeId : Operation root preset (Store.ofPreset root preset).activeId
  | get? (id : Text) : Operation root preset ((Store.ofPreset root preset).get? id)
  | load (id : Text) : Operation root preset ((Store.ofPreset root preset).load id).run
  | loadActive : Operation root preset (Store.ofPreset root preset).loadActive.run
  | create (name : Text) : Operation root preset ((Store.ofPreset root preset).create name).run
  | saveAs (name : Text) (content : Content) :
    Operation root preset ((Store.ofPreset root preset).saveAs name content).run
  | delete (id : Text) : Operation root preset ((Store.ofPreset root preset).delete id).run
  | autosave (id : Text) (content : Content) :
    Operation root preset ((Store.ofPreset root preset).autosave id content).run

/-- Every operation is made of steps on the store. -/
theorem Operation.does (h : Operation root preset action) : (Store.ofPreset root preset).Does action := by
  cases h with
  | openFor => exact does_openFor root preset
  | index => exact does_index
  | list => exact does_list
  | activeId => exact does_activeId
  | get? id => exact does_get? id
  | load id => exact does_load id
  | loadActive => exact does_loadActive
  | create name => exact does_create name
  | saveAs name content => exact does_saveAs name content
  | delete id => exact does_delete id
  | autosave id content => exact does_autosave id content

/-- And each step uses none but the store's own paths, so no operation uses others. -/
theorem Operation.uses (h : Operation root preset action) :
    Files.Uses (Store.ofPreset root preset).own action :=
  h.does.trans Store.Step.uses

/-- **A store stays in its directory.** The name made of an id, whatever that is, is the name of one
entry, and no sibling has the name of another file. So the files that belong to a store are below
its directory. Every operation uses these only: it changes nothing but what stands there, and on
sessions that look the same there it has the same result, and they look the same again. -/
theorem operation_own :
    (∀ id, IsComponent (componentName id)) ∧
      (∀ (path : Path) (slot : Slot), Path.fileName? (Files.siblingPath path) ≠ some slot.name) ∧
      ∀ (root : Path) (preset : Preset),
        (∀ (cwd : Location) (path : Path), (Store.ofPreset root preset).own.file path →
          Disk.target cwd root ++ [componentName preset.id] <+: Disk.target cwd path) ∧
        ∀ {α : Type} (operation : StateM Session α), Operation root preset operation →
          Files.Uses (Store.ofPreset root preset).own operation ∧
            (∀ s, Files.Bounded (Store.ofPreset root preset).own s (operation.run s).2) ∧
            ∀ s s', Files.Agree (Store.ofPreset root preset).own s s' →
              (operation.run s).1 = (operation.run s').1 ∧
                Files.Agree (Store.ofPreset root preset).own (operation.run s).2
                  (operation.run s').2 := by
  refine ⟨isComponent_componentName, fileName?_siblingPath_ne, fun root preset => ?_⟩
  refine ⟨fun cwd path => prefix_target_own cwd, fun operation h => ?_⟩
  -- that only these files are used carries both other parts
  exact ⟨h.uses, h.uses.bounded, fun s s' => h.uses.agrees⟩

/-- The store of a preset whose id seems to lead out of the directory. -/
def dotsStore : Store := Store.ofPreset "/data" (presetOf "..")

/-- A file stands where the id of a draft seems to lead. -/
def secretSession : Session :=
  { emptySession with disk := emptySession.disk.set ["secret.json"] (.file (.text "secret")) }

/-- The file cannot be told from nothing by that id. -/
theorem operation_own_dots :
    dotsStore.draftPath "../../../secret" = "/data/_/drafts/_.._.._secret.json" ∧
      [("data" : Text), "_"] <+: Disk.target [] (dotsStore.draftPath "../../../secret") ∧
      Files.Agree dotsStore.own emptySession secretSession ∧
      ((dotsStore.load "../../../secret").run.run emptySession).1 =
        ((dotsStore.load "../../../secret").run.run secretSession).1 := by
  obtain ⟨-, -, hown⟩ := operation_own
  obtain ⟨hbelow, hoperation⟩ := hown "/data" (presetOf "..")
  have hagree : Files.Agree dotsStore.own emptySession secretSession := by
    refine ⟨rfl, rfl, rfl, fun x hx => ?_⟩
    -- the file is neither on the way to `/data` nor below `/data/_`
    have hne : x ≠ [("secret.json" : Text)] := by
      rcases mem_places_own hx with hway | hprefix
      · rintro rfl
        exact absurd hway (by decide +kernel)
      · rintro rfl
        exact absurd hprefix (by decide +kernel)
    exact (Disk.lookup_set_of_ne hne _ _).symm
  obtain ⟨-, -, hsame⟩ := hoperation _ (.load "../../../secret")
  exact ⟨by decide +kernel, hbelow [] _ ⟨.draft "../../../secret", .inl rfl⟩, hagree,
    (hsame _ _ hagree).1⟩

end MarkupDesk.Drafts
