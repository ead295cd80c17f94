/-
`Proofs/Drafts/Update.lean` -- the updates that operations on drafts are made of.

An operation on drafts changes the files of its store one after the other, each in one update:
a document is written or removed, the index is written, or the id of the draft that was opened
last. What a store says is what is read from these files (`reading`), and there an update has
one effect, `Reading.update`. A single update is all or nothing, whatever stands in its way
(`Update.ends`): it has this effect, or it fails and everything reads as before.

A list of updates is not. It makes `Progress` up to the first one that fails, whose file the
error names. Sequences of tasks make the updates of their parts, one after the other
(`advances_bind`), so that the list of an operation is found by following its steps.
-/
import MarkupDesk.Proofs.Drafts.Healing

set_option autoImplicit false

namespace MarkupDesk.Drafts

open Files (Disk FileError Location Touches siblingName)
open MarkupDesk.Task (Ends)

variable {home : Location} {s between after : Session} {store : Store} {slot other : Slot}
  {id : Text} {α : Type}

/-! ## 1. What a store says -/

/-- All that is read from the files of a store. -/
structure Reading where
  index : Index
  draft : Text → Option Draft
  /-- The id of the draft that was opened last, by the id that stands in where there is none. -/
  active : Text → Text

/-- What the store says in the session. -/
def reading (s : Session) (store : Store) : Reading :=
  ⟨readIndex s store, readDraft s store, fun fallback => readActive fallback s store⟩

/-- One change of one file of a store. -/
inductive Update where
  | document (draft : Draft)
  | removal (id : Text)
  | index (index : Index)
  | active (id : Text)
  deriving DecidableEq, Repr

namespace Update

/-- The file that is changed. -/
def file : Update → Slot
  | document draft => .draft draft.id
  | removal id => .draft id
  | index _ => .index
  | active _ => .active

/-- The update on the files. -/
def run (store : Store) : Update → Task StoreError Unit
  | document draft => store.saveDraft draft
  | removal id =>
    Task.mapError (.write (store.draftPath id)) (Files.removeIfPresent (store.draftPath id))
  | index new => store.saveIndex new
  | active id => store.setActive id

/-- What is written is read back. -/
def ReadsBack : Update → Prop
  | document draft => draft.ReadsBack
  | index new => new.ReadsBack
  | _ => True

end Update

/-- What is read behind an update. Drafts whose ids make one file name have one document. -/
def Reading.update (r : Reading) : Update → Reading
  | .document draft =>
    { r with draft := fun id => if componentName id = componentName draft.id then some draft else r.draft id }
  | .removal gone =>
    { r with draft := fun id => if componentName id = componentName gone then none else r.draft id }
  | .index new => { r with index := new }
  | .active id => { r with active := fun _ => id }

/-! ## 2. Files that read as before -/

/-- The directories of the store are there. -/
structure HasFolders (s : Session) (store : Store) : Prop where
  top : HasFolder s store .index
  drafts : HasFolder s store (.draft [])

/-- Every file of a store is in one of the two directories. -/
theorem HasFolders.folder (h : HasFolders s store) (slot : Slot) : HasFolder s store slot := by
  cases slot with
  | index => exact h.top
  | active => exact h.top
  | draft id => exact h.drafts

/-- Directories that were there are there afterwards. -/
theorem HasFolders.mono (h : HasFolders s store) (hcwd : after.cwd = s.cwd)
    (hdirectories : ∀ x, s.disk.lookup x = some .directory → after.disk.lookup x = some .directory) :
    HasFolders after store :=
  ⟨hasFolder_mono hcwd hdirectories h.top, hasFolder_mono hcwd hdirectories h.drafts⟩

/-- Whatever is read from the file, it is what was read before. -/
def ReadsSame (s after : Session) (store : Store) (slot : Slot) : Prop :=
  ∀ {β : Type} (reader : Json.Reader β) (fallback : β),
    after.disk.readRecord after.cwd (slot.path store) reader fallback =
      s.disk.readRecord s.cwd (slot.path store) reader fallback

/-- Files that are not touched read as before. -/
theorem readsSame_of_touches {may : Location → Option Files.Content → Prop}
    (hfolder : HasFolder s store slot) (h : Touches may s after)
    (hno : ∀ content, ¬ may (Disk.target s.cwd (slot.path store)) content) :
    ReadsSame s after store slot := by
  have hcwd : after.cwd = s.cwd := (Files.chains_touches may).cwd h
  have hafter : HasFolder after store slot := hasFolder_mono hcwd h.directories hfolder
  have hfile := (h.files _).resolve_right (hno _)
  -- a path leads to the same file if its directory is there and the file is the same
  have hentry : ∀ content, after.disk.entry? after.cwd (slot.path store) = some (.file content) ↔
      s.disk.entry? s.cwd (slot.path store) = some (.file content) := by
    intro content
    rw [hcwd, Slot.path, Disk.entry?_eq_file_iff slot.plainName_name,
      Disk.entry?_eq_file_iff slot.plainName_name, ← Slot.path, hfile]
    exact ⟨fun h => ⟨hfolder, h.2⟩, fun h => ⟨hcwd ▸ hafter, h.2⟩⟩
  intro β reader fallback
  rw [Disk.readRecord_eq, Disk.readRecord_eq]
  by_cases ht : ∃ t, s.disk.entry? s.cwd (slot.path store) = some (.file (.text t))
  · obtain ⟨t, ht⟩ := ht
    rw [ht, (hentry _).2 ht]
  · split
    next t heq => exact absurd ⟨t, (hentry _).1 heq⟩ ht
    next =>
      split
      next t heq => exact absurd ⟨t, heq⟩ ht
      next => rfl

/-- The files of a store are at different places, unless they are documents of one name. -/
theorem target_slot_ne (hin : store.In home s.cwd) (hapart : slot.Apart other) :
    Disk.target s.cwd (other.path store) ≠ Disk.target s.cwd (slot.path store) := by
  rw [target_slot hin, target_slot hin]
  exact hapart.symm _

/-- No file of the store is where a sibling file is. -/
theorem target_slot_ne_sibling (hin : store.In home s.cwd) (slot other : Slot) :
    Disk.target s.cwd (other.path store) ≠ Disk.target s.cwd (Files.siblingPath (slot.path store)) := by
  rw [target_slot hin, target_sibling hin]
  intro heq
  have hlast := List.append_inj_right' heq rfl
  exact other.name_ne_siblingName slot.name (List.cons.inj hlast).1

/-! ## 3. One update -/

/-- Paths lead where they led, and the directories of the store are there. -/
structure Stepped (s : Session) (store : Store) (after : Session) : Prop where
  cwd : after.cwd = s.cwd
  folders : HasFolders after store

/-- A step that touches files, and makes directories at most, leaves the store where it
was. -/
theorem stepped_of_touches {may : Location → Option Files.Content → Prop} (hfolders : HasFolders s store)
    (h : Touches may s after) : Stepped s store after :=
  have hcwd := (Files.chains_touches may).cwd h
  ⟨hcwd, hfolders.mono hcwd h.directories⟩

/-- Saving a file is all or nothing. -/
theorem save_cases {value : Json} {result : Except StoreError Unit} (slot : Slot)
    (hin : store.In home s.cwd) (hfolders : HasFolders s store)
    (h : Ends (Store.save (slot.path store) value) s result after) :
    Stepped s store after ∧
      ((result = .ok () ∧ entryOf after store slot = some (document value) ∧
          ∀ other, slot.Apart other → ReadsSame s after store other) ∨
        ∃ cause, result = .error (.write (slot.path store) cause) ∧
          ∀ other, ReadsSame s after store other) := by
  obtain ⟨outcome, hwrite, rfl⟩ := Task.ends_mapError.1 h
  cases outcome with
  | ok _ =>
    have htouches := (Files.writeWhole_touches _ _).ends rfl hwrite
    refine ⟨stepped_of_touches hfolders htouches, .inl ⟨rfl, save_self hin.named h, fun other hapart => ?_⟩⟩
    refine readsSame_of_touches (hfolders.folder other) htouches fun content htouched => ?_
    -- what was touched is the slot or its sibling, and another slot is neither
    rcases htouched with ⟨hplace, -⟩ | hsibling
    · exact target_slot_ne hin hapart hplace
    · exact target_slot_ne_sibling hin slot other hsibling
  | error cause =>
    have htouches := Files.writeWhole_failed hwrite
    exact ⟨stepped_of_touches hfolders htouches, .inr ⟨cause, rfl, fun other =>
      readsSame_of_touches (hfolders.folder other) htouches fun _ =>
        target_slot_ne_sibling hin slot other⟩⟩

/-- Removing a file is all or nothing. -/
theorem remove_cases {result : Except FileError Unit} (slot : Slot) (hin : store.In home s.cwd)
    (hfolders : HasFolders s store)
    (h : Ends (Files.removeIfPresent (slot.path store)) s result after) :
    Stepped s store after ∧
      ((result = .ok () ∧ entryOf after store slot = none ∧
          ∀ other, slot.Apart other → ReadsSame s after store other) ∨
        ∃ cause, result = .error cause ∧ after = s) := by
  cases result with
  | ok _ =>
    have htouches : Touches (fun x _ => x = Disk.target s.cwd (slot.path store)) s after :=
      (Files.removeIfPresent_touches rfl).ends rfl h
    exact ⟨stepped_of_touches hfolders htouches, .inl ⟨rfl, remove_self h, fun other hapart =>
      readsSame_of_touches (hfolders.folder other) htouches fun _ => target_slot_ne hin hapart⟩⟩
  | error cause =>
    obtain rfl := Files.removeIfPresent_failed h
    exact ⟨⟨rfl, hfolders⟩, .inr ⟨cause, rfl, rfl⟩⟩

/-- If all files of a store read as before, the store says what it said. -/
theorem reading_congr (h : ∀ other, ReadsSame s after store other) :
    reading after store = reading s store := by
  have hindex : readIndex after store = readIndex s store := h .index _ _
  have hdraft : readDraft after store = readDraft s store := funext fun id => h (.draft id) _ _
  have hactive : (fun fallback => readActive fallback after store) =
      fun fallback => readActive fallback s store := funext fun fallback => h .active _ _
  rw [reading, reading, hindex, hdraft, hactive]

/-- Documents of one name are one file. -/
theorem readDraft_congr {other : Text} (h : componentName other = componentName id) :
    readDraft s store other = readDraft s store id := by
  have hpath : store.draftPath other = store.draftPath id := by
    rw [Store.draftPath, Store.draftPath, h]
  rw [readDraft, hpath]
  rfl

/-- What is read behind a change of one document. -/
theorem reading_of_document {found : Option Draft} (hread : readDraft after store id = found)
    (h : ∀ other, (Slot.draft id).Apart other → ReadsSame s after store other) :
    reading after store =
      { reading s store with
        draft := fun other => if componentName other = componentName id then found
          else readDraft s store other } := by
  have hindex : readIndex after store = readIndex s store := h .index (Slot.apart_index_draft id).symm _ _
  have hactive : (fun fallback => readActive fallback after store) =
      fun fallback => readActive fallback s store :=
    funext fun fallback => h .active (Slot.apart_active_draft id).symm _ _
  -- ids with the same name share their document
  have hdraft : readDraft after store = fun other =>
      if componentName other = componentName id then found else readDraft s store other := by
    funext other
    by_cases hname : componentName other = componentName id
    · rw [if_pos hname, readDraft_congr hname, hread]
    · rw [if_neg hname]
      exact h (.draft other) (Slot.apart_draft_draft (Ne.symm hname)) _ _
  rw [reading, reading, hindex, hdraft, hactive]

/-- **One update is all or nothing.** It writes or removes one file, and that file alone reads
differently behind it: `save_cases` and `remove_cases` say it of the file, and here it is said
of what is read from the store, for each kind of file. -/
theorem Update.ends (update : Update) {result : Except StoreError Unit} (hin : store.In home s.cwd)
    (hfolders : HasFolders s store) (hback : update.ReadsBack)
    (h : Ends (update.run store) s result after) :
    Stepped s store after ∧
      ((result = .ok () ∧ reading after store = (reading s store).update update) ∨
        ∃ cause, result = .error (.write (update.file.path store) cause) ∧
          reading after store = reading s store) := by
  cases update with
  | document draft =>
    obtain ⟨hstepped, ⟨hresult, hentry, hothers⟩ | ⟨cause, hresult, hothers⟩⟩ :=
      save_cases (.draft draft.id) hin hfolders h
    · have hread : readDraft after store draft.id = some draft := readDraft_of_entryOf hback hentry
      exact ⟨hstepped, .inl ⟨hresult, reading_of_document hread hothers⟩⟩
    · exact ⟨hstepped, .inr ⟨cause, hresult, reading_congr hothers⟩⟩
  | removal id =>
    -- a document that was never there is removed by doing nothing, and reads as gone
    obtain ⟨outcome, hremove, rfl⟩ := Task.ends_mapError.1 h
    obtain ⟨hstepped, ⟨rfl, hentry, hothers⟩ | ⟨cause, rfl, rfl⟩⟩ :=
      remove_cases (.draft id) hin hfolders hremove
    · exact ⟨hstepped, .inl ⟨rfl, reading_of_document (readDraft_of_gone hentry) hothers⟩⟩
    · exact ⟨hstepped, .inr ⟨cause, rfl, rfl⟩⟩
  | index new =>
    obtain ⟨hstepped, ⟨hresult, hentry, hothers⟩ | ⟨cause, hresult, hothers⟩⟩ :=
      save_cases .index hin hfolders h
    · have hread : readIndex after store = new := readIndex_of_entryOf hback hentry
      -- the other files read as before, each of them being apart from this one
      have hdraft : readDraft after store = readDraft s store :=
        funext fun id => hothers (.draft id) (Slot.apart_index_draft id) _ _
      have hactive : (fun fallback => readActive fallback after store) =
          fun fallback => readActive fallback s store :=
        funext fun fallback => hothers .active Slot.apart_index_active _ _
      refine ⟨hstepped, .inl ⟨hresult, ?_⟩⟩
      rw [reading, hread, hdraft, hactive]
      rfl
    · exact ⟨hstepped, .inr ⟨cause, hresult, reading_congr hothers⟩⟩
  | active id =>
    obtain ⟨hstepped, ⟨hresult, hentry, hothers⟩ | ⟨cause, hresult, hothers⟩⟩ :=
      save_cases .active hin hfolders h
    · have hindex : readIndex after store = readIndex s store :=
        hothers .index Slot.apart_index_active.symm _ _
      have hdraft : readDraft after store = readDraft s store :=
        funext fun id => hothers (.draft id) (Slot.apart_active_draft id) _ _
      have hactive : (fun fallback => readActive fallback after store) = fun _ => id :=
        funext fun fallback => readActive_of_entryOf hentry fallback
      refine ⟨hstepped, .inl ⟨hresult, ?_⟩⟩
      rw [reading, hindex, hdraft, hactive]
      rfl
    · exact ⟨hstepped, .inr ⟨cause, hresult, reading_congr hothers⟩⟩

/-! ## 4. Lists of updates -/

/-- With a result a task has made all the updates; with an error those in front of the first one
that failed. -/
inductive Progress (store : Store) : Reading → List Update → Except StoreError α → Reading → Prop
  | finished (r : Reading) (x : α) : Progress store r [] (.ok x) r
  | failed (r : Reading) (next : Update) (rest : List Update) (cause : FileError) :
    Progress store r (next :: rest) (.error (.write (next.file.path store) cause)) r
  | made {r r' : Reading} {next : Update} {rest : List Update} {result : Except StoreError α}
    (h : Progress store (r.update next) rest result r') : Progress store r (next :: rest) result r'

namespace Progress

variable {β : Type} {r r' r'' : Reading} {updates more : List Update} {result : Except StoreError α}
  {problem : StoreError} {x : α}

/-- Progress is about files; what is computed with the result has nothing to do with it. -/
theorem map (f : α → β) (h : Progress store r updates result r') :
    Progress store r updates (result.map f) r' := by
  induction h with
  | finished r x => exact .finished r (f x)
  | failed r next rest cause => exact .failed r next rest cause
  | made _ ih => exact .made ih

/-- Updates that were made to the end, and others after them. -/
theorem append {result : Except StoreError β} (h : Progress store r updates (.ok x) r')
    (h' : Progress store r' more result r'') : Progress store r (updates ++ more) result r'' := by
  generalize hok : (.ok x : Except StoreError α) = outcome at h
  induction h with
  | finished => exact h'
  | failed => cases hok
  | made _ ih => exact .made (ih h' hok)

/-- What would have followed makes no difference to an error. -/
theorem append_of_error (h : Progress store r updates (.error problem : Except StoreError α) r')
    (more : List Update) : Progress store r (updates ++ more) (.error problem : Except StoreError β) r' := by
  generalize herror : (.error problem : Except StoreError α) = outcome at h
  induction h with
  | finished => cases herror
  | failed r next rest cause =>
    obtain rfl := Except.error.inj herror
    exact .failed r next _ cause
  | made _ ih => exact .made (ih herror)

/-- What ended well has made all updates. -/
theorem eq_foldl (h : Progress store r updates (.ok x) r') : r' = updates.foldl Reading.update r := by
  generalize hok : (.ok x : Except StoreError α) = outcome at h
  induction h with
  | finished => rfl
  | failed => cases hok
  | made _ ih => exact ih hok

/-- **Where a list of updates stopped.** -/
theorem exists_failed (h : Progress store r updates (.error problem : Except StoreError α) r') :
    ∃ done next rest cause, updates = done ++ next :: rest ∧
      problem = .write (next.file.path store) cause ∧ r' = done.foldl Reading.update r := by
  generalize herror : (.error problem : Except StoreError α) = outcome at h
  induction h with
  | finished => cases herror
  | failed r next rest cause =>
    exact ⟨[], next, rest, cause, rfl, Except.error.inj herror, rfl⟩
  | @made r r' first updates _ _ ih =>
    obtain ⟨done, next, rest, cause, hupdates, hproblem, hread⟩ := ih herror
    exact ⟨first :: done, next, rest, cause, by rw [hupdates, List.cons_append], hproblem, hread⟩

end Progress

/-- A task, begun on a store whose directories are there, has made progress with the updates. -/
structure Advances (s : Session) (store : Store) (updates : List Update) (result : Except StoreError α)
    (after : Session) : Prop extends Stepped s store after where
  progress : Progress store (reading s store) updates result (reading after store)

/-- What does nothing makes no updates. -/
theorem advances_pure {x : α} {result : Except StoreError α} (hfolders : HasFolders s store)
    (h : Ends (pure x) s result after) : Advances s store [] result after := by
  obtain ⟨rfl, rfl⟩ := Task.ends_pure.1 h
  exact ⟨⟨rfl, hfolders⟩, .finished _ x⟩

/-- One update is a list of one. -/
theorem Update.advances (update : Update) {result : Except StoreError Unit} (hin : store.In home s.cwd)
    (hfolders : HasFolders s store) (hback : update.ReadsBack)
    (h : Ends (update.run store) s result after) : Advances s store [update] result after := by
  obtain ⟨hstepped, ⟨rfl, hread⟩ | ⟨cause, rfl, hread⟩⟩ := update.ends hin hfolders hback h
  · exact ⟨hstepped, .made (hread ▸ .finished _ ())⟩
  · exact ⟨hstepped, hread ▸ .failed _ _ _ cause⟩

/-- **Sequences** make the updates of the first part and then those of the other one. -/
theorem advances_bind {β : Type} {first : Task StoreError α} {rest : α → Task StoreError β}
    {updates more : List Update} {result : Except StoreError β}
    (hfirst : ∀ outcome between, first.Ends s outcome between → Advances s store updates outcome between)
    (hrest : ∀ x between, first.Ends s (.ok x) between → Stepped s store between →
      reading between store = updates.foldl Reading.update (reading s store) →
      (rest x).Ends between result after → Advances between store more result after)
    (h : Ends (first >>= rest) s result after) : Advances s store (updates ++ more) result after := by
  rcases Task.ends_bind.1 h with ⟨problem, hends, rfl⟩ | ⟨x, between, hends, h⟩
  · have hfailed := hfirst _ _ hends
    exact ⟨hfailed.toStepped, hfailed.progress.append_of_error more⟩
  · have hmade := hfirst _ _ hends
    have hdone := hrest x between hends hmade.toStepped hmade.progress.eq_foldl h
    exact ⟨⟨hdone.cwd.trans hmade.cwd, hdone.folders⟩, hmade.progress.append hdone.progress⟩

end MarkupDesk.Drafts
