/-
`Proofs/Drafts/Reread.lean` -- the drafts that operations give are those in the files.

Where no file fails to be written (`Written`), opening, making and saving a draft end with the
draft that is read under its id from then on. For a draft that was there before this needs the
store to be consistent: it is found by the id that was asked for and has to be found by its own.
-/
import MarkupDesk.Proofs.Drafts.Frame

set_option autoImplicit false

namespace MarkupDesk.Drafts

open Files (Disk Location)
open MarkupDesk.Task (Ends)

variable {home cwd : Location} {s between after : Session} {store : Store} {id name : Text}
  {draft : Draft} {content : Content}
  {may : Location → Option Files.Content → Option Files.Content → Prop}

/-! ## 1. What stays readable -/

/-- Directories are not removed by any operation, so a folder that was there stays. -/
theorem hasFolder_mono {slot : Slot} (hcwd : after.cwd = s.cwd)
    (hdirectories : ∀ x, s.disk.lookup x = some .directory → after.disk.lookup x = some .directory)
    (h : HasFolder s store slot) : HasFolder after store slot := by
  obtain ⟨location, hlocation⟩ := h
  rw [HasFolder, hcwd]
  exact ⟨location, hlocation.mono hdirectories⟩

/-- A draft is read as before if its document is what it was. -/
theorem Frame.readDraft_eq (hin : store.In home s.cwd) (h : Frame home may s after)
    (hfolder : HasFolder s store (.draft id))
    (hfile : after.disk.file? (spot home store.presetId id) =
      s.disk.file? (spot home store.presetId id)) :
    Drafts.readDraft after store id = Drafts.readDraft s store id := by
  have hin' : store.In home after.cwd := h.cwd_eq.symm ▸ hin
  have hfolder' : HasFolder after store (.draft id) := hasFolder_mono h.cwd_eq h.directories hfolder
  refine Option.ext fun draft => ?_
  rw [readDraft_eq_some_iff hin, readDraft_eq_some_iff hin', hfile]
  exact and_congr_left' ⟨fun _ => hfolder, fun _ => hfolder'⟩

/-- A draft that was read is read again if its file is what it was. -/
theorem Frame.readDraft (hin : store.In home s.cwd) (h : Frame home may s after)
    (hfile : after.disk.file? (spot home store.presetId id) =
      s.disk.file? (spot home store.presetId id))
    (hread : readDraft s store id = some draft) : readDraft after store id = some draft :=
  (h.readDraft_eq hin ((readDraft_eq_some_iff hin).1 hread).1 hfile).trans hread

/-- So it is where no document has changed at all. -/
theorem Quiet.readDraft (hin : store.In home s.cwd) (h : Quiet home s after)
    (hread : readDraft s store id = some draft) : Drafts.readDraft after store id = some draft :=
  have hframe : Frame home Untouched s after := h.frame
  hframe.readDraft hin (h.documents _ (isDocument_spot home _ _)) hread

/-- No id that was made between the sessions has the name of this one. -/
def Unclaimed (id : Text) (s after : Session) : Prop :=
  ∀ token < after.nextToken, s.nextToken ≤ token →
    componentName (Moment.draftId ⟨s.now, token⟩) ≠ componentName id

instance (id : Text) (s after : Session) : Decidable (Unclaimed id s after) :=
  inferInstanceAs (Decidable (∀ token < after.nextToken, s.nextToken ≤ token →
    componentName (Moment.draftId ⟨s.now, token⟩) ≠ componentName id))

/-- Fewer ids are made between sessions in between. -/
theorem Unclaimed.mono {other : Text} {first last : Session} (h : Unclaimed id s after)
    (hname : componentName other = componentName id) (hnow : first.now = s.now)
    (hfirst : s.nextToken ≤ first.nextToken) (hlast : last.nextToken ≤ after.nextToken) :
    Unclaimed other first last := by
  intro token hbelow habove
  rw [hnow, hname]
  exact h token (Nat.lt_of_lt_of_le hbelow hlast) (Nat.le_trans hfirst habove)

/-- The document of a draft whose id is not made anew is what it was, if it is not named. -/
theorem Frame.document_cases (h : Frame home may s after) (hunclaimed : Unclaimed id s after)
    (presetId : Text) :
    after.disk.file? (spot home presetId id) = s.disk.file? (spot home presetId id) ∨
      may (spot home presetId id) (s.disk.file? (spot home presetId id))
        (after.disk.file? (spot home presetId id)) := by
  rcases h.documents _ (isDocument_spot home presetId id) with
    hsame | hmay | ⟨newPreset, token, hfirst, hlast, hspot⟩
  · exact .inl hsame
  · exact .inr hmay
  · exact absurd (componentName_of_spot hspot).2.symm (hunclaimed token hlast hfirst)

/-- A draft that is read has a file. -/
theorem isSome_of_readDraft (hin : store.In home s.cwd) (hread : readDraft s store id = some draft) :
    (s.disk.file? (spot home store.presetId id)).isSome = true := by
  obtain ⟨-, -, t, ht, -⟩ := (readDraft_eq_some_iff hin).1 hread
  rw [ht]
  rfl

/-- A draft that is read from a sound document goes by the name it was read under. -/
theorem Sound.componentName_eq (hin : store.In home s.cwd)
    (h : Sound home (spot home store.presetId id) (s.disk.file? (spot home store.presetId id)))
    (hread : readDraft s store id = some draft) : componentName draft.id = componentName id := by
  obtain ⟨-, -, t, ht, hdocument⟩ := (readDraft_eq_some_iff hin).1 hread
  obtain ⟨presetId, hspot⟩ := h t draft ht hdocument
  exact (componentName_of_spot hspot).2.symm

/-- In a consistent store a draft that is read under some id is read under its own. -/
theorem Consistent.readDraft_self (h : Consistent home s) (hin : store.In home s.cwd)
    (hread : readDraft s store id = some draft) : readDraft s store draft.id = some draft := by
  have hpath : store.draftPath draft.id = store.draftPath id := by
    have hsound := h _ (isDocument_spot home store.presetId id)
    rw [Store.draftPath, Store.draftPath, hsound.componentName_eq hin hread]
  rw [readDraft, hpath]
  exact hread

/-- A draft that was saved is read. -/
theorem saveDraft_reads (draft : Draft) (hnamed : store.Named) (hback : draft.ReadsBack)
    (h : Ends (store.saveDraft draft) s (.ok ()) after) :
    readDraft after store draft.id = some draft := by
  rw [saveDraft_eq] at h
  exact readDraft_of_entryOf hback (save_self hnamed h)

/-! ## 2. Making and saving -/

/-- **Making a draft**: it is read, or an empty name has changed nothing. -/
theorem insertNew_written {result : Except StoreError Draft} (hin : store.In home s.cwd)
    (hclock : s.now.Proper) (hwritten : Written result)
    (h : Ends (store.insertNew name content) s result after) :
    ((Text.trim name).isEmpty = true ∧ result = .error .emptyName ∧ after = s) ∨
      ∃ draft, result = .ok draft ∧ draft.content = content ∧
        readDraft after store draft.id = some draft := by
  by_cases hname : (Text.trim name).isEmpty = true
  · exact .inl ⟨hname, insertNew_refused hname h⟩
  · have h := ends_insertNew hname h
    obtain ⟨between, hdraft, h⟩ := ends_write_bind hwritten h
    obtain ⟨between', hindex, h⟩ := ends_write_bind hwritten (ends_index_bind.1 h)
    obtain ⟨rfl, rfl⟩ := Task.ends_pure.1 h
    have hback : ((Moment.of s).draft name content).ReadsBack := ⟨hclock.readsBack, hclock.readsBack⟩
    have hcwd : between.cwd = s.cwd :=
      (saveDraft_frame (s := { s with nextToken := s.nextToken + 1 }) _ hin (fun _ => hback)
        hdraft).cwd_eq
    have hin' : store.In home between.cwd := hcwd.symm ▸ hin
    refine .inr ⟨_, rfl, rfl, ?_⟩
    -- the index is saved behind the document, and leaves it as it is
    exact ((saveIndex_quiet hin' _).ends rfl hindex).readDraft hin'
      (saveDraft_reads _ hin.named hback hdraft)

/-- Marking a draft as the one that was opened last leaves it what it is. -/
theorem setActive_bind_written {result : Except StoreError Draft} (hin : store.In home s.cwd)
    (hwritten : Written result) (hread : readDraft s store draft.id = some draft)
    (h : Ends (do store.setActive draft.id; return draft) s result after) :
    result = .ok draft ∧ readDraft after store draft.id = some draft := by
  obtain ⟨between, hactive, h⟩ := ends_write_bind hwritten h
  obtain ⟨rfl, rfl⟩ := Task.ends_pure.1 h
  exact ⟨rfl, ((setActive_quiet hin draft.id).ends rfl hactive).readDraft hin hread⟩

/-- **Making a draft and opening it.** -/
theorem saveAs_written {result : Except StoreError Draft} (hin : store.In home s.cwd)
    (hclock : s.now.Proper) (hwritten : Written result)
    (h : Ends (store.saveAs name content) s result after) :
    (result = .error .emptyName ∧ after = s) ∨ ∃ draft, result = .ok draft ∧
      draft.content = content ∧ readDraft after store draft.id = some draft := by
  rcases Task.ends_bind.1 h with ⟨problem, hinsert, rfl⟩ | ⟨draft, between, hinsert, h⟩
  · rcases insertNew_written hin hclock hwritten.error hinsert with ⟨-, hresult, rfl⟩ | ⟨_, hresult, -⟩
    · rw [Except.error.inj hresult]
      exact .inl ⟨rfl, rfl⟩
    · cases hresult
  · have hmade : Written (.ok draft : Except StoreError Draft) := trivial
    rcases insertNew_written hin hclock hmade hinsert with
      ⟨-, hresult, -⟩ | ⟨_, hresult, hcontent, hread⟩
    · cases hresult
    · obtain rfl := Except.ok.inj hresult
      -- making the draft has not moved the editor elsewhere, so the mark is set in the same store
      have hcwd := ((insertNew_frame hin name content).ends rfl hinsert).cwd_eq
      obtain ⟨rfl, hread⟩ := setActive_bind_written (hcwd.symm ▸ hin) hwritten hread h
      exact .inr ⟨draft, rfl, hcontent, hread⟩

/-- The only way for a write to fail is that a file could not be written; the error then names
the path. -/
theorem exists_cause {path : Path} {task : Task Files.FileError Unit} {problem : StoreError}
    (h : Ends (Task.mapError (StoreError.write path) task) s (.error problem) after) :
    ∃ cause, problem = .write path cause := by
  obtain ⟨outcome, -, houtcome⟩ := Task.ends_mapError.1 h
  cases outcome with
  | ok _ => cases houtcome
  | error cause => exact ⟨cause, Except.error.inj houtcome⟩

/-- The draft that an autosave writes. -/
def Draft.resaved (draft : Draft) (content : Content) (now : Calendar.Timestamp) : Draft :=
  { draft with content := content, updated := now }

/-- An autosave that succeeds gives the draft that was there, with the content. -/
theorem autosave_ok (h : Ends (store.autosave id content) s (.ok (some draft)) after) :
    ∃ old, readDraft s store id = some old ∧ draft = old.resaved content s.now := by
  unfold Store.autosave at h
  have h := ends_get_bind.1 h
  cases hread : readDraft s store id with
  | none =>
    rw [hread] at h
    cases (Task.ends_pure.1 h).1
  -- the draft on the disk is saved again with the content, not the one that is open
  | some old =>
    rw [hread] at h
    have h := Task.ends_get_bind.1 h
    obtain ⟨_, between, -, h⟩ := Task.ends_bind_ok.1 h
    obtain ⟨_, between', -, h⟩ := Task.ends_bind_ok.1 (ends_index_bind.1 h)
    exact ⟨old, rfl, Option.some.inj (Except.ok.inj (Task.ends_pure.1 h).1)⟩

/-- **Autosaving**: a missing draft changes nothing; else its document is written anew. Even
where a write fails, no other document is touched, which is why the frame is said before the
two ends are told apart. -/
theorem autosave_cases {result : Except StoreError (Option Draft)} (hin : store.In home s.cwd)
    (h : Ends (store.autosave id content) s result after) :
    (readDraft s store id = none ∧ result = .ok none ∧ after = s) ∨ ∃ draft,
      readDraft s store id = some draft ∧
      Frame home (fun x _ new => x = spot home store.presetId draft.id ∧ new.isSome = true) s after ∧
      ((∃ path cause, result = .error (.write path cause)) ∨
        result = .ok (some (draft.resaved content s.now)) ∧ (s.now.Proper →
          readDraft after store draft.id = some (draft.resaved content s.now))) := by
  unfold Store.autosave at h
  have h := ends_get_bind.1 h
  cases hread : readDraft s store id with
  | none =>
    rw [hread] at h
    obtain ⟨rfl, rfl⟩ := Task.ends_pure.1 h
    exact .inl ⟨rfl, rfl, rfl⟩
  | some draft =>
    rw [hread] at h
    have h := Task.ends_get_bind.1 h
    -- the time of creation comes from a document that was read
    have hback : s.now.Proper → (draft.resaved content s.now).ReadsBack := by
      intro hclock
      obtain ⟨-, -, t, -, hdocument⟩ := (readDraft_eq_some_iff hin).1 hread
      exact ⟨(readsBack_of_readDocument hdocument).1, hclock.readsBack⟩
    refine .inr ⟨draft, rfl, ?_⟩
    have hsaves : ∀ {result : Except StoreError Unit} {between : Session},
        Ends (store.saveDraft (draft.resaved content s.now)) s result between →
          Frame home (fun x _ new => x = spot home store.presetId draft.id ∧ new.isSome = true)
            s between := fun hsave =>
        saveDraft_frame (draft.resaved content s.now) hin hback hsave
    rcases Task.ends_bind.1 h with ⟨problem, hsave, rfl⟩ | ⟨_, between, hsave, h⟩
    · obtain ⟨cause, rfl⟩ := exists_cause hsave
      exact ⟨hsaves hsave, .inl ⟨_, cause, rfl⟩⟩
    · have hframe := hsaves hsave
      have hin' : store.In home between.cwd := hframe.cwd_eq.symm ▸ hin
      have htrans : ∀ {after : Session}, Quiet home between after →
          Frame home (fun x _ new => x = spot home store.presetId draft.id ∧ new.isSome = true)
            s after := fun hquiet =>
        hframe.trans (fun _ _ _ _ h h' => ⟨h.1, h'.2⟩) hquiet.frame
      have h := ends_index_bind.1 h
      rcases Task.ends_bind.1 h with ⟨problem, hindex, rfl⟩ | ⟨_, between', hindex, h⟩
      · obtain ⟨cause, rfl⟩ := exists_cause hindex
        exact ⟨htrans ((saveIndex_quiet hin' _).ends rfl hindex), .inl ⟨_, cause, rfl⟩⟩
      · obtain ⟨rfl, rfl⟩ := Task.ends_pure.1 h
        have hquiet := (saveIndex_quiet hin' _).ends rfl hindex
        have hread : s.now.Proper →
            readDraft between store draft.id = some (draft.resaved content s.now) := fun hclock =>
          saveDraft_reads (draft.resaved content s.now) hin.named (hback hclock) hsave
        exact ⟨htrans hquiet, .inr ⟨rfl, fun hclock => hquiet.readDraft hin' (hread hclock)⟩⟩

/-! ## 3. Opening -/

/-- What recovery ends with, given the first draft that it could read. -/
theorem found_written {result : Except StoreError Draft} {found : Option Draft}
    (hin : store.In home s.cwd) (hclock : s.now.Proper) (hwritten : Written result)
    (hfound : ∀ draft ∈ found, readDraft s store draft.id = some draft)
    (h : Ends (match found with
      | some draft => return draft
      -- the starter has a name, so making it is not refused
      | none => store.insertNew Store.starterName store.defaults) s result after) :
    ∃ draft, result = .ok draft ∧ readDraft after store draft.id = some draft := by
  cases found with
  | some draft =>
    obtain ⟨rfl, rfl⟩ := Task.ends_pure.1 h
    exact ⟨draft, rfl, hfound draft rfl⟩
  | none =>
    rcases insertNew_written hin hclock hwritten h with ⟨hname, -⟩ | ⟨draft, hresult, -, hread⟩
    · exact absurd hname trim_starterName
    · exact ⟨draft, hresult, hread⟩

/-- Recovery finds a draft that is read, or makes one. What it finds was read under one of the
listed ids; that it is read under its own id is where consistency comes in. -/
theorem recover_written {result : Except StoreError Draft} (hin : store.In home s.cwd)
    (hclock : s.now.Proper) (hconsistent : Consistent home s) (hwritten : Written result)
    (h : Ends store.recover s result after) :
    ∃ draft, result = .ok draft ∧ readDraft after store draft.id = some draft := by
  unfold Store.recover at h
  have h := ends_index_bind.1 h
  have h := Task.ends_lift_bind.1 h
  rw [candidates_run] at h
  simp only at h
  -- each candidate is the draft of a listed id
  have hfound : ∀ draft ∈ ((readIndex s store).order.map fun id =>
      (id, readDraft s store id)).findSome? (·.2), readDraft s store draft.id = some draft := by
    intro draft hfind
    obtain ⟨candidate, hmem, hcandidate⟩ := List.exists_of_findSome?_eq_some hfind
    obtain ⟨id, -, rfl⟩ := List.mem_map.1 hmem
    exact hconsistent.readDraft_self hin hcandidate
  split at h
  · -- the index is written first, which no document notices
    obtain ⟨between, hindex, h⟩ := ends_write_bind hwritten h
    have hquiet := (saveIndex_quiet hin _).ends rfl hindex
    have hin' : store.In home between.cwd := ((chains_quiet home).cwd hquiet).symm ▸ hin
    have hclock' : between.now.Proper := by
      rw [hquiet.same]
      exact hclock
    exact found_written hin' hclock' hwritten
      (fun draft hdraft => hquiet.readDraft hin (hfound draft hdraft)) h
  · exact found_written hin hclock hwritten hfound h

/-- **Opening a draft** ends with one that is read, recovered or not, and marks it, which no
document notices. -/
theorem load_written {result : Except StoreError Draft} (hin : store.In home s.cwd)
    (hclock : s.now.Proper) (hconsistent : Consistent home s) (hwritten : Written result)
    (h : Ends (store.load id) s result after) :
    ∃ draft, result = .ok draft ∧ readDraft after store draft.id = some draft := by
  unfold Store.load at h
  have h := ends_get_bind.1 h
  cases hread : readDraft s store id with
  | some draft =>
    simp only [hread, pure_bind] at h
    obtain ⟨hresult, hread⟩ :=
      setActive_bind_written hin hwritten (hconsistent.readDraft_self hin hread) h
    exact ⟨draft, hresult, hread⟩
  | none =>
    simp only [hread] at h
    rcases Task.ends_bind.1 h with ⟨problem, hrecover, rfl⟩ | ⟨draft, between, hrecover, h⟩
    -- a recovery that fails has failed to write
    · obtain ⟨_, hresult, -⟩ :=
        recover_written hin hclock hconsistent hwritten.error hrecover
      cases hresult
    · have hfound : Written (.ok draft : Except StoreError Draft) := trivial
      obtain ⟨_, hresult, hread⟩ := recover_written hin hclock hconsistent hfound hrecover
      obtain rfl := Except.ok.inj hresult
      have hcwd := ((recover_frame hin).ends rfl hrecover).cwd_eq
      obtain ⟨hresult, hread⟩ := setActive_bind_written (hcwd.symm ▸ hin) hwritten hread h
      exact ⟨draft, hresult, hread⟩

/-- Opening the draft that was opened last is opening the draft of some id. -/
theorem loadActive_written {result : Except StoreError Draft} (hin : store.In home s.cwd)
    (hclock : s.now.Proper) (hconsistent : Consistent home s) (hwritten : Written result)
    (h : Ends store.loadActive s result after) :
    ∃ draft, result = .ok draft ∧ readDraft after store draft.id = some draft := by
  have hlooks : (store.activeId.run s).2 = s := by
    unfold Store.activeId
    rw [Session.run_bind]
    cases (store.index.run s).1.order.head? <;> rfl
  have h := Task.ends_lift_bind.1 h
  rw [hlooks] at h
  exact load_written hin hclock hconsistent hwritten h

/-- A draft with a name is made, unless a file cannot be written. -/
theorem insertNew_ok {result : Except StoreError Draft} (hname : ¬ (Text.trim name).isEmpty = true)
    (hwritten : Written result) (h : Ends (store.insertNew name content) s result after) :
    result = .ok ((Moment.of s).draft name content) := by
  have h := ends_insertNew hname h
  obtain ⟨_, -, h⟩ := ends_write_bind hwritten h
  obtain ⟨_, -, h⟩ := ends_write_bind hwritten (ends_index_bind.1 h)
  exact (Task.ends_pure.1 h).1

/-- Preparing a store ends well if nothing fails to be written: the name of the starter draft
is not refused. -/
theorem prepare_written {result : Except StoreError Unit} (hwritten : Written result)
    (h : Ends store.prepare s result after) : result = .ok () := by
  -- a first draft is made where the index lists none, be it an index that was just written
  have hstarter : ∀ {between : Session}, Ends (do
      if (← Task.lift store.index).order.isEmpty then
        let starter ← store.insertNew Store.starterName store.defaults
        store.setActive starter.id) between result after → result = .ok () := by
    intro between h
    have h := ends_index_bind.1 h
    split at h
    · rcases Task.ends_bind.1 h with ⟨problem, hinsert, rfl⟩ | ⟨_, _, -, hactive⟩
      · cases insertNew_ok trim_starterName hwritten.error hinsert
      · exact ends_write hwritten hactive
    · exact (Task.ends_pure.1 h).1
  unfold Store.prepare at h
  have h := Task.ends_lift_bind.1 h
  split at h
  · obtain ⟨between, -, h⟩ := ends_write_bind hwritten h
    exact hstarter h
  · exact hstarter h

/-- Opening a store fails only where a file cannot be written. -/
theorem openFor_written {root : Path} {preset : Preset} {result : Except StoreError Store}
    (hwritten : Written result) (h : Ends (Store.openFor root preset) s result after) :
    result = .ok (Store.ofPreset root preset) := by
  rcases Task.ends_bind.1 h with ⟨problem, hends, rfl⟩ | ⟨_, between, -, h⟩
  · cases prepare_written hwritten.error hends
  · exact (Task.ends_pure.1 h).1

/-- **Deleting a draft** ends well, or it has changed nothing, or it panics. -/
theorem delete_written {result : Except (Stop StoreError) Text} (hwritten : AllWritten result)
    (h : Ends (store.delete id) s result after) :
    (∃ next, result = .ok next) ∨ Stop.isPanic result = true ∨
      ∃ problem, result = .error (.failed problem) ∧ after = s := by
  obtain ⟨-, rfl, rfl⟩ | ⟨-, -, rfl, rfl⟩ | ⟨-, -, h⟩ := ends_delete h
  · exact .inr (.inr ⟨_, rfl, rfl⟩)
  · exact .inr (.inr ⟨_, rfl, rfl⟩)
  obtain ⟨removed, saved, -, -, hpromote⟩ := ends_deleteListed hwritten h
  -- with nothing left to promote the deletion panics
  cases hrest : ((readIndex s store).drop [id]).order with
  | nil =>
    rw [promote_nil hrest] at hpromote
    obtain ⟨rfl, -⟩ := Task.ends_throw.1 hpromote
    exact .inr (.inl rfl)
  | cons next rest => exact .inl ⟨next, (ends_promote_written hrest hwritten hpromote).1⟩

end MarkupDesk.Drafts
