/-
`Proofs/Drafts/Separation.lean` -- the drafts of different presets.

The store of a preset keeps to its own directory below the one for all presets. Files it writes
nowhere else, and directories it makes nowhere else either, once the directory for all presets
is there (`Confined`). So the files of another store read as before (`readsSame_of_within`), and what it
says is the same (`SaysSame`), provided the two directories are different ones.

They are if the names made of the ids are. Two ids may have one name, since every character that
cannot stand in a name is written as the same one; then the two presets have one store.
-/
import MarkupDesk.Proofs.Drafts.Effect
import MarkupDesk.Proofs.Drafts.Refinement
import MarkupDesk.Proofs.Drafts.Update
import MarkupDesk.Proofs.Files.Within

set_option autoImplicit false

namespace MarkupDesk.Drafts

open Files (Disk Location Within)
open MarkupDesk.Path (PlainName)
open MarkupDesk.Task (Ends)

variable {root : Path} {home place cwd : Location} {s between after : Session} {store : Store}
  {preset : Preset} {slot : Slot}

/-! ## 1. One directory -/

/-- No directory has gone, and if the root was there nothing has changed outside of the place. -/
structure Confined (root : Path) (place : Location) (s after : Session) : Prop where
  cwd : after.cwd = s.cwd
  directories : ∀ x, s.disk.lookup x = some .directory → after.disk.lookup x = some .directory
  within : (∃ outer, s.disk.Reaches s.cwd root outer) → Within place s after

/-- Being confined to a directory is handed on from step to step: what is outside of it stays
what it was, and directories only come to be. -/
theorem chains_confined (root : Path) (place : Location) : Chains (Confined root place) where
  refl _ := ⟨rfl, fun _ hx => hx, fun _ => (Files.chains_within place).refl _⟩
  trans {s between after} h h' := by
    refine ⟨h'.cwd.trans h.cwd, fun x hx => h'.directories x (h.directories x hx), ?_⟩
    rintro ⟨outer, hreach⟩
    have hfirst := h.within ⟨outer, hreach⟩
    exact (Files.chains_within place).trans hfirst (h'.within ⟨outer, hfirst.reaches hreach⟩)
  cwd := Confined.cwd

/-- The files of a store are below its directory. -/
theorem prefix_place (outer : Location) (slot : Slot) (name : Text) :
    outer <+: slot.place outer ++ [name] := by
  cases slot with
  | index => exact List.prefix_append _ _
  | active => exact List.prefix_append _ _
  | draft id => exact (List.prefix_append _ _).trans (List.prefix_append _ _)

/-- Every file of a store is in a folder of the store, so the directories that are made for it
are those above its folder. -/
theorem parent?_slot (root : Path) (preset : Preset) (slot : Slot) :
    Path.parent? (slot.path (Store.ofPreset root preset)) =
      some (slot.folder (Store.ofPreset root preset)) := by
  have hname := plainName_componentName preset.id
  cases slot with
  | index => exact Path.parent?_join root hname Slot.index.plainName_name
  | active => exact Path.parent?_join root hname Slot.active.plainName_name
  | draft id => exact Path.parent?_join _ plainName_drafts (Slot.draft id).plainName_name

/-- The directory of a file is made without another one outside of the store. -/
theorem ensureDirectories_within {result : Except Files.FileError Unit} {outer : Location}
    (hroot : Disk.target s.cwd root = home) (preset : Preset) (slot : Slot)
    (hreach : s.disk.Reaches s.cwd root outer)
    (h : Ends (Files.ensureDirectories (slot.folder (Store.ofPreset root preset))) s result after) :
    Within (home ++ [componentName preset.id]) s after := by
  have hname := plainName_componentName preset.id
  have hplace : home ++ [componentName preset.id] <+:
      Disk.target s.cwd (Path.join root (componentName preset.id)) := by
    rw [Disk.target_join _ _ hname, hroot]
  have htop : ∀ {result : Except Files.FileError Unit} {after : Session},
      Ends (Files.ensureDirectories (Path.join root (componentName preset.id))) s result after →
        Within (home ++ [componentName preset.id]) s after := by
    intro result after h
    obtain ⟨ancestors, hancestors⟩ := Files.exists_ancestors (Path.join root (componentName preset.id))
    rw [Files.ensureDirectories, hancestors] at h
    exact Files.ensureChain_reached hname hplace hreach h
  cases slot with
  | index => exact htop h
  | active => exact htop h
  | draft id =>
    -- above the directory for the documents there is that of the store
    have hparent := Path.parent?_join root hname plainName_drafts
    obtain ⟨ancestors, hancestors⟩ := Files.exists_ancestors
      (Path.join (Path.join root (componentName preset.id)) "drafts")
    rw [Path.parent?, hancestors, List.getElem?_cons_succ] at hparent
    cases ancestors with
    | nil => cases hparent
    | cons above ancestors =>
      obtain rfl : above = _ := Option.some.inj hparent
      change Ends (Files.ensureDirectories
        (Path.join (Path.join root (componentName preset.id)) "drafts")) s result after at h
      rw [Files.ensureDirectories, hancestors] at h
      exact Files.ensureChain_reached_twice hname plainName_drafts hplace hreach h

/-- **A store keeps to its directory.** -/
theorem effects_confined (hroot : Disk.target cwd root = home) (preset : Preset) :
    Effects (Store.ofPreset root preset) cwd (Confined root (home ++ [componentName preset.id])) where
  chains := chains_confined root _
  save slot value := by
    -- both the file and the sibling it is written through are below the directory
    have hin := in_ofPreset hroot preset
    refine Task.does_mapError fun s result after hcwd hends => ?_
    have htouches := (Files.writeWhole_touches _ _).ends rfl hends
    refine ⟨by rw [htouches.same], htouches.directories, ?_⟩
    rintro ⟨outer, hreach⟩
    subst hcwd
    refine Files.writeWhole_within (parent?_slot root preset slot) ?_ ?_
      (ensureDirectories_within hroot preset slot hreach) hends
    · rw [target_slot hin]
      exact prefix_place _ slot _
    · rw [target_sibling hin]
      exact prefix_place _ slot _
  remove id := by
    have hin := in_ofPreset hroot preset
    refine Task.does_mapError fun s result after hcwd hends => ?_
    have hplace : home ++ [componentName preset.id] <+:
        Disk.target cwd ((Store.ofPreset root preset).draftPath id) := by
      rw [draftPath_eq, target_slot hin]
      exact prefix_place _ (.draft id) _
    have hwithin := (Files.removeIfPresent_within hplace).ends hcwd hends
    exact ⟨hwithin.cwd, hwithin.directories, fun _ => hwithin⟩
  token s := ⟨rfl, fun _ hx => hx, fun _ => ⟨rfl, fun _ hx => hx, fun _ _ => rfl⟩⟩

/-! ## 2. The files of another store -/

/-- Directories of different names have nothing in common. -/
theorem not_prefix_of_ne {name other : Text} (h : name ≠ other) (home rest : Location) :
    ¬ home ++ [name] <+: home ++ [other] ++ rest := by
  rw [List.append_assoc, List.prefix_append_right_inj]
  intro hprefix
  exact h (List.cons_prefix_cons.1 hprefix).1

/-- The files of a store read as before, whatever is done in another directory. -/
theorem readsSame_of_within (hin : store.In home s.cwd) (hfolder : HasFolder s store .index)
    {name : Text} (hne : name ≠ componentName store.presetId)
    (h : Within (home ++ [name]) s after) (slot : Slot) : ReadsSame s after store slot := by
  have houtside : ∀ rest, after.disk.lookup (home ++ [componentName store.presetId] ++ rest) =
      s.disk.lookup (home ++ [componentName store.presetId] ++ rest) :=
    fun rest => h.others _ (not_prefix_of_ne hne home rest)
  obtain ⟨top, htop⟩ := hfolder
  have htopPlace : top = home ++ [componentName store.presetId] := htop.eq_target.trans hin.place
  have htop' : after.disk.Reaches after.cwd store.directory top := h.reaches htop
  -- the directory of the documents may be missing, but then it is missing afterwards, too
  have hfolders : ∀ outer, after.disk.Reaches after.cwd (slot.folder store) outer ↔
      s.disk.Reaches s.cwd (slot.folder store) outer := by
    intro outer
    refine ⟨fun hreach => ?_, h.reaches⟩
    cases slot with
    | index => rwa [hreach.unique htop']
    | active => rwa [hreach.unique htop']
    | draft id =>
      obtain ⟨above, habove, hlength, hentry, rfl⟩ :=
        (Disk.reaches_join_iff plainName_drafts).1 hreach
      obtain rfl := habove.unique htop'
      refine (Disk.reaches_join_iff plainName_drafts).2 ⟨above, htop, hlength, ?_, rfl⟩
      rw [htopPlace] at hentry ⊢
      rw [← houtside]
      exact hentry
  have hentry : after.disk.entry? after.cwd (slot.path store) = s.disk.entry? s.cwd (slot.path store) := by
    refine Option.ext fun entry => ?_
    rw [Slot.path, Disk.entry?_join_iff slot.plainName_name, Disk.entry?_join_iff slot.plainName_name]
    refine exists_congr fun outer => ?_
    rw [hfolders outer]
    refine and_congr_right fun hreach => and_congr_right fun _ => ?_
    have hplace : outer ++ [slot.name] =
        slot.place (home ++ [componentName store.presetId]) ++ [slot.name] := by
      rw [← target_slot hin, Slot.path, Disk.target_join _ _ slot.plainName_name, ← hreach.eq_target]
    obtain ⟨rest, hrest⟩ := prefix_place (home ++ [componentName store.presetId]) slot slot.name
    rw [hplace, ← hrest, houtside]
  intro β reader fallback
  rw [Disk.readRecord_eq, Disk.readRecord_eq, hentry]

/-! ## 3. What a store says -/

/-- The list, every draft and the id of the draft that was opened last are what they were. -/
structure SaysSame (store : Store) (s after : Session) : Prop where
  list : (store.list.run after).1 = (store.list.run s).1
  get? : ∀ id, ((store.get? id).run after).1 = ((store.get? id).run s).1
  activeId : (store.activeId.run after).1 = (store.activeId.run s).1

/-- All that a store says it reads from its files. -/
theorem saysSame_of_readsSame (h : ∀ slot, ReadsSame s after store slot) :
    SaysSame store s after := by
  have hindex : readIndex after store = readIndex s store := h .index _ _
  refine ⟨congrArg Index.summaries hindex, fun id => h (.draft id) _ _, ?_⟩
  cases hhead : (readIndex s store).order.head? with
  | some first =>
    have hafter : (readIndex after store).order.head? = some first := by rwa [hindex]
    have hactive : readActive first after store = readActive first s store := h .active _ _
    rw [activeId_eq hafter, activeId_eq hhead, hactive]
  | none =>
    -- without a draft the id is looked for all the same
    have hactive : ∀ {s : Session}, (readIndex s store).order.head? = none →
        (store.activeId.run s).1 =
          s.disk.readRecord s.cwd store.activePath (.optional .string) none := by
      intro s hhead
      have hrun : store.index.run s = (readIndex s store, s) := rfl
      rw [Store.activeId, Session.run_bind, hrun]
      simp only [hhead]
      rfl
    have hafter : (readIndex after store).order.head? = none := by rwa [hindex]
    rw [hactive hafter, hactive hhead]
    exact h .active _ _

/-- What is confined to the directory of one preset is not noticed by the store of another. -/
theorem saysSame_of_confined {other : Preset} (hroot : Disk.target s.cwd root = home)
    (hne : componentName preset.id ≠ componentName other.id)
    (hfolder : HasFolder s (Store.ofPreset root other) .index)
    (h : Confined root (home ++ [componentName preset.id]) s after) :
    SaysSame (Store.ofPreset root other) s after := by
  obtain ⟨location, hlocation⟩ := hfolder
  obtain ⟨outer, houter, -⟩ :=
    (Disk.reaches_join_iff (plainName_componentName other.id)).1 hlocation
  exact saysSame_of_readsSame fun slot =>
    readsSame_of_within (in_ofPreset hroot other) ⟨location, hlocation⟩ hne
      (h.within ⟨outer, houter⟩) slot

/-! ## 4. Stores that were opened -/

/-- **An opened store has its directory**, whether it was there or had to be made. -/
theorem openFor_folder (h : Ends (Store.openFor root preset) s (.ok store) after) :
    store = Store.ofPreset root preset ∧ HasFolder after store .index := by
  obtain ⟨⟨⟩, opened, hprepare, h⟩ := Task.ends_bind_ok.1 h
  obtain ⟨hstore, rfl⟩ := Task.ends_pure.1 h
  obtain rfl := Except.ok.inj hstore
  refine ⟨rfl, ?_⟩
  generalize hhome : Disk.target s.cwd root = home
  have heffects : Effects (Store.ofPreset root preset) s.cwd
      (Confined root (home ++ [componentName preset.id])) := effects_confined hhome preset
  -- behind a session in which the directory is there it stays
  have hstays : ∀ {start : Session} {task : Task StoreError Unit} {result : Except StoreError Unit},
      HasFolder start (Store.ofPreset root preset) .index → start.cwd = s.cwd →
        task.Does s.cwd (Confined root (home ++ [componentName preset.id])) →
          Ends task start result after → HasFolder after (Store.ofPreset root preset) .index := by
    intro start task result hfolder hcwd htask h
    have hconfined := htask.ends hcwd h
    exact hasFolder_mono hconfined.cwd hconfined.directories hfolder
  cases hentry : s.disk.hasEntry s.cwd (Store.ofPreset root preset).indexPath with
  | true => exact hstays (hasFolder_of_hasEntry hentry) rfl (heffects.does does_prepare) hprepare
  | false =>
    unfold Store.prepare at hprepare
    have hprepare := Task.ends_lift_bind.1 hprepare
    have hrun : (Files.hasEntry (Store.ofPreset root preset).indexPath).run s = (false, s) := by
      rw [← hentry]
      rfl
    simp only [hrun, Bool.not_false, if_true] at hprepare
    obtain ⟨⟨⟩, between, hindex, hprepare⟩ := Task.ends_bind_ok.1 hprepare
    have hcwd : between.cwd = s.cwd := ((heffects.does (does_saveIndex .empty)).ends rfl hindex).cwd
    rw [saveIndex_eq] at hindex
    exact hstays (save_folder (named_ofPreset root preset) hindex) hcwd (heffects.does does_starter)
      hprepare

/-- **A script on one store is confined to its directory.** The induction is on the script. -/
theorem trace_confined {script : Script} (hroot : Disk.target s.cwd root = home)
    (hstores : ∀ step ∈ script, ∀ store ∈ step.2.store?, store = Store.ofPreset root preset) :
    ∀ step ∈ script.trace root preset s,
      Confined root (home ++ [componentName preset.id]) s step.2 := by
  have hchains := chains_confined root (home ++ [componentName preset.id])
  induction script generalizing s with
  | nil =>
    intro step hstep
    exact absurd hstep List.not_mem_nil
  | cons made script ih =>
    obtain ⟨moment, call⟩ := made
    have hcall : Confined root (home ++ [componentName preset.id])
        { s with now := moment.now, nextToken := moment.token }
        ((call.run root preset).run.run { s with now := moment.now, nextToken := moment.token }).2 :=
      ((effects_confined hroot preset).call (hstores _ List.mem_cons_self)).ends rfl rfl
    -- the clock and the tokens are no part of the disk
    have hhead : Confined root (home ++ [componentName preset.id]) s
        ((call.run root preset).run.run { s with now := moment.now, nextToken := moment.token }).2 :=
      ⟨hcall.cwd, hcall.directories, fun houter =>
        have hwithin := hcall.within houter
        ⟨hwithin.cwd, hwithin.directories, hwithin.others⟩⟩
    intro step hstep
    rcases List.mem_cons.1 hstep with rfl | hstep
    · exact hhead
    · have hroot' : Disk.target (((call.run root preset).run.run
          { s with now := moment.now, nextToken := moment.token }).2).cwd root = home := by
        rw [hhead.cwd, hroot]
      -- behind a panic nothing is called any more
      split at hstep
      · exact absurd hstep List.not_mem_nil
      exact hchains.trans hhead (ih hroot'
        (fun step hstep => hstores step (List.mem_cons_of_mem _ hstep)) step hstep)

/-- **Presets have separate drafts if the names made of their ids differ.** Let the store of one
have been opened, and let no directory have gone since. Then whatever calls are made on the store
of the other, opening it among them, and however they end, behind each of them the first store
says what it said. -/
theorem trace_saysSame {other : Preset} {before opened : Session} {script : Script}
    (hne : componentName preset.id ≠ componentName other.id)
    (hopened : Ends (Store.openFor root other) before (.ok store) opened)
    (hcwd : s.cwd = opened.cwd)
    (hsince : ∀ x, opened.disk.lookup x = some .directory → s.disk.lookup x = some .directory)
    (hstores : ∀ step ∈ script, ∀ store ∈ step.2.store?, store = Store.ofPreset root preset) :
    ∀ step ∈ script.trace root preset s, SaysSame store s step.2 := by
  obtain ⟨rfl, hfolder⟩ := openFor_folder hopened
  intro step hstep
  exact saysSame_of_confined rfl hne (hasFolder_mono hcwd hsince hfolder)
    (trace_confined rfl hstores step hstep)

/-! ## 5. Two presets -/

/-- A preset with nothing in it but the id. -/
def presetOf (id : Text) : Preset := { barePreset with id := id }

/-- The first preset is opened, gets a second draft and loses the one it had. -/
def busyScript (id : Text) : Script :=
  let moment (k : Nat) : Moment := ⟨⟨20000, k, 0⟩, k⟩
  let store := Store.ofPreset "/data" (presetOf id)
  [(moment 1, .openStore), (moment 2, .create store "Notes"),
    (moment 3, .delete store (moment 1).draftId), (moment 4, .loadActive store)]

/-- The session in which the preset was opened. -/
def openedSession (id : Text) : Session :=
  ((Store.openFor "/data" (presetOf id)).run.run emptySession).2

/-- Opening a store ends with the store of the preset. -/
theorem ends_openedSession {id : Text}
    (h : ((Store.openFor "/data" (presetOf id)).run.run emptySession).1.toOption.isSome = true) :
    Ends (Store.openFor "/data" (presetOf id)) emptySession
      (.ok (Store.ofPreset "/data" (presetOf id))) (openedSession id) := by
  have hends := Task.ends_toOption h
  rw [(openFor_folder hends).1] at hends
  exact hends

/-- Four calls on one store, among them a deletion, and after each of them another store says
what it said before. -/
theorem trace_saysSame_busy :
    ((busyScript "a").trace "/data" (presetOf "a") (openedSession "b")).length = 4 ∧
      ∀ step ∈ (busyScript "a").trace "/data" (presetOf "a") (openedSession "b"),
        SaysSame (Store.ofPreset "/data" (presetOf "b")) (openedSession "b") step.2 := by
  have hne : componentName (presetOf "a").id ≠ componentName (presetOf "b").id := by decide +kernel
  have hopened : Ends (Store.openFor "/data" (presetOf "b")) emptySession
      (.ok (Store.ofPreset "/data" (presetOf "b"))) (openedSession "b") :=
    ends_openedSession (by decide +kernel)
  have hstores : ∀ step ∈ busyScript "a", ∀ store ∈ step.2.store?,
      store = Store.ofPreset "/data" (presetOf "a") := by decide +kernel
  exact ⟨by decide +kernel, trace_saysSame hne hopened rfl (fun _ h => h) hstores⟩

/-- The ids differ, but the names made of them do not: what is done to the drafts of one preset
shows in the list of the other. -/
theorem not_saysSame_of_same_name :
    (presetOf "a b").id ≠ (presetOf "a_b").id ∧
      Ends (Store.openFor "/data" (presetOf "a_b")) emptySession
        (.ok (Store.ofPreset "/data" (presetOf "a_b"))) (openedSession "a_b") ∧
      (∀ step ∈ busyScript "a b", ∀ store ∈ step.2.store?,
        store = Store.ofPreset "/data" (presetOf "a b")) ∧
      ¬ ∀ step ∈ (busyScript "a b").trace "/data" (presetOf "a b") (openedSession "a_b"),
        SaysSame (Store.ofPreset "/data" (presetOf "a_b")) (openedSession "a_b") step.2 := by
  have hids : (presetOf "a b").id ≠ (presetOf "a_b").id := by decide +kernel
  have hstores : ∀ step ∈ busyScript "a b", ∀ store ∈ step.2.store?,
      store = Store.ofPreset "/data" (presetOf "a b") := by decide +kernel
  have hchanged : ((busyScript "a b").trace "/data" (presetOf "a b") (openedSession "a_b")).any
      (fun step => ((Store.ofPreset "/data" (presetOf "a_b")).list.run step.2).1.length != 1) =
        true := by
    decide +kernel
  have hbefore : ((Store.ofPreset "/data" (presetOf "a_b")).list.run (openedSession "a_b")).1.length
      = 1 := by
    decide +kernel
  refine ⟨hids, ends_openedSession (by decide +kernel), hstores, fun hsame => ?_⟩
  -- behind some call the list is longer than the one draft that it had
  obtain ⟨step, hstep, hlist⟩ := List.any_eq_true.1 hchanged
  rw [(hsame step hstep).list, hbefore] at hlist
  exact absurd hlist (by decide)

end MarkupDesk.Drafts
