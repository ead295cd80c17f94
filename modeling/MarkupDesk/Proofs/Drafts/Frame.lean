/-
`Proofs/Drafts/Frame.lean` -- the documents that operations on drafts may change.

All presets keep their drafts below one directory, and every draft has a file of its own there
(`spot`). What an operation does to these files is a `Frame`: a document that is not named by
the frame is what it was, unless it has an id that was made in between. The index and the file
of the draft that was opened last are no documents, so saving them is of no account; what is
left is one write for a new draft, one for an autosave and one removal.

A frame also keeps documents where they belong: if the id in every document is the one of its
file (`Consistent`), then this is so afterwards.
-/
import MarkupDesk.Proofs.Calendar.Timestamp
import MarkupDesk.Proofs.Drafts.Operations
import MarkupDesk.Proofs.Files.Effect
import MarkupDesk.Proofs.Json.Yield

set_option autoImplicit false

namespace MarkupDesk.Drafts

open Calendar (Timestamp)
open Files (Disk Location Replaced Touches siblingName)
open Json (Reader)
open MarkupDesk.Task (Ends)

/-! ## 1. Documents -/

/-- The location of the file of a draft, by the directory for the drafts of all presets. -/
def spot (home : Location) (presetId id : Text) : Location :=
  home ++ [componentName presetId, "drafts", (Slot.draft id).name]

/-- The location is one for the file of a draft. -/
def IsDocument (home x : Location) : Prop := ∃ presetId id, x = spot home presetId id

/-- The draft that the text of a document is, if it is one. -/
def readDocument (t : Text) : Option Draft :=
  Files.decodeOr (.optional Draft.shape.reader) none t

/-- If a draft can be read from the content, then the location is that of its id. -/
def Sound (home x : Location) (content : Option Files.Content) : Prop :=
  ∀ t draft, content = some (.text t) → readDocument t = some draft →
    ∃ presetId, x = spot home presetId draft.id

/-- Every document that can be read is in the file of its id. -/
def Consistent (home : Location) (s : Session) : Prop :=
  ∀ x, IsDocument home x → Sound home x (s.disk.file? x)

/-- The store keeps its drafts below the directory for those of all presets. -/
structure Store.In (store : Store) (home cwd : Location) : Prop where
  named : store.Named
  place : Disk.target cwd store.directory = home ++ [componentName store.presetId]

theorem in_ofPreset {root : Path} {home cwd : Location} (hroot : Disk.target cwd root = home)
    (preset : Preset) : (Store.ofPreset root preset).In home cwd := by
  refine ⟨named_ofPreset root preset, ?_⟩
  rw [← hroot]
  exact Disk.target_join cwd root (plainName_componentName preset.id)

variable {home cwd x : Location} {s between after : Session} {store : Store} {slot : Slot}
  {presetId id other name : Text} {draft : Draft} {content : Content}

/-- The file of a draft depends on the name that is made of its id, not on the id itself. -/
theorem spot_congr (h : componentName id = componentName other) (home : Location) (presetId : Text) :
    spot home presetId id = spot home presetId other := by
  rw [spot, spot, Slot.name_draft, Slot.name_draft, h]

/-- Where two documents are the same file, the names made of their presets and of their ids
are the same. Nothing more can be said: two ids may have one name. -/
theorem componentName_of_spot {otherPreset : Text}
    (h : spot home presetId id = spot home otherPreset other) :
    componentName presetId = componentName otherPreset ∧ componentName id = componentName other := by
  have hends := List.append_cancel_left h
  simp only [List.cons.injEq, and_true, true_and] at hends
  refine ⟨hends.1, ?_⟩
  have hname := hends.2
  rw [Slot.name_draft, Slot.name_draft] at hname
  exact List.append_cancel_right hname

/-- Where the files of a store are, by the directory for the drafts of all presets. The next
lemmas say it of single files. -/
theorem target_folder (hin : store.In home cwd) (slot : Slot) :
    Disk.target cwd (slot.folder store) = slot.place (home ++ [componentName store.presetId]) := by
  cases slot with
  | index => exact hin.place
  | active => exact hin.place
  | draft id =>
    rw [Slot.folder, Disk.target_join cwd _ plainName_drafts, hin.place]
    rfl

/-- A file of a store is in its folder, under its own name. -/
theorem target_slot (hin : store.In home cwd) (slot : Slot) :
    Disk.target cwd (slot.path store) =
      slot.place (home ++ [componentName store.presetId]) ++ [slot.name] := by
  rw [Slot.path, Disk.target_join cwd _ slot.plainName_name, target_folder hin]

/-- The file of a draft is its spot. -/
theorem target_draft (hin : store.In home cwd) (id : Text) :
    Disk.target cwd (store.draftPath id) = spot home store.presetId id := by
  rw [draftPath_eq, target_slot hin, Slot.place, spot]
  simp

/-- The file through which a file of the store is written stands beside it. -/
theorem target_sibling (hin : store.In home cwd) (slot : Slot) :
    Disk.target cwd (Files.siblingPath (slot.path store)) =
      slot.place (home ++ [componentName store.presetId]) ++ [siblingName slot.name] := by
  rw [siblingPath_slot hin.named,
    Disk.target_join cwd _ (Files.plainName_siblingName slot.plainName_name), target_folder hin]

/-! ## 2. What is no document -/

/-- Every draft has a document, whether it is there or not. -/
theorem isDocument_spot (home : Location) (presetId id : Text) :
    IsDocument home (spot home presetId id) :=
  ⟨presetId, id, rfl⟩

/-- A document has the name of a draft. -/
theorem not_isDocument_of_name {outer : Location} (h : ∀ id, name ≠ (Slot.draft id).name) :
    ¬ IsDocument home (outer ++ [name]) := by
  rintro ⟨presetId, id, heq⟩
  have hspot : spot home presetId id =
      (home ++ [componentName presetId, "drafts"]) ++ [(Slot.draft id).name] := by simp [spot]
  rw [hspot] at heq
  exact h id (List.cons.inj (List.append_inj_right' heq rfl)).1

/-- What is written on the way to a document is no document. -/
theorem not_isDocument_sibling (home outer : Location) (name : Text) :
    ¬ IsDocument home (outer ++ [siblingName name]) :=
  not_isDocument_of_name fun id => ((Slot.draft id).name_ne_siblingName name).symm

/-- Documents are deeper down than the other files of a store. -/
theorem not_isDocument_of_length (h : x.length = home.length + 2) : ¬ IsDocument home x := by
  rintro ⟨presetId, id, rfl⟩
  rw [spot, List.length_append] at h
  simp at h

/-! ## 3. Frames -/

/-- Documents that `may` does not name are what they were, but for those whose ids were made in
between; and documents whose ids are those of their files stay so. -/
structure Frame (home : Location)
    (may : Location → Option Files.Content → Option Files.Content → Prop) (s after : Session) :
    Prop where
  same : after = { s with disk := after.disk, nextToken := after.nextToken }
  tokens : s.nextToken ≤ after.nextToken
  directories : ∀ x, s.disk.lookup x = some .directory → after.disk.lookup x = some .directory
  documents : ∀ x, IsDocument home x → after.disk.file? x = s.disk.file? x ∨
    may x (s.disk.file? x) (after.disk.file? x) ∨
      ∃ presetId token, s.nextToken ≤ token ∧ token < after.nextToken ∧
        x = spot home presetId (Moment.draftId ⟨s.now, token⟩)
  sound : s.now.Proper → ∀ x, IsDocument home x → Sound home x (s.disk.file? x) →
    Sound home x (after.disk.file? x)

/-- No document is named. -/
def Untouched (_ : Location) (_ _ : Option Files.Content) : Prop := False

/-- The document that is at the location already is written anew. -/
def Rewritten (place x : Location) (old new : Option Files.Content) : Prop :=
  x = place ∧ old.isSome = true ∧ new.isSome = true

/-- The document at the location is removed. -/
def Removed (place x : Location) (_ new : Option Files.Content) : Prop := x = place ∧ new = none

variable {may may' : Location → Option Files.Content → Option Files.Content → Prop}

namespace Frame

/-- A frame may name more documents than it has to. -/
theorem mono (h : Frame home may s after)
    (hle : ∀ x new, may x (s.disk.file? x) new → may' x (s.disk.file? x) new) :
    Frame home may' s after :=
  ⟨h.same, h.tokens, h.directories, fun x hx => (h.documents x hx).imp_right (·.imp_left (hle x _)),
    h.sound⟩

/-- No operation sets the clock. -/
theorem now_eq (h : Frame home may s after) : after.now = s.now := by rw [h.same]

/-- And none changes the working directory, so that paths mean the same before and after. -/
theorem cwd_eq (h : Frame home may s after) : after.cwd = s.cwd := by rw [h.same]

/-- What changes nothing has every frame. -/
theorem refl (home : Location)
    (may : Location → Option Files.Content → Option Files.Content → Prop) (s : Session) :
    Frame home may s s :=
  ⟨rfl, Nat.le_refl _, fun _ hx => hx, fun _ _ => .inl rfl, fun _ _ _ hx => hx⟩

/-- One frame after another. What was named by the one may be named by the other, and a
document with an id made in between keeps that excuse, since tokens only grow. -/
theorem trans (htrans : ∀ x a b c, may x a b → may x b c → may x a c)
    (h : Frame home may s between) (h' : Frame home may between after) : Frame home may s after where
  same := by rw [h'.same, h.same]
  tokens := Nat.le_trans h.tokens h'.tokens
  directories x hx := h'.directories x (h.directories x hx)
  documents x hx := by
    -- what the second step did to the document, and before it the first
    rcases h'.documents x hx with hsame' | hmay' | ⟨presetId, token, hfirst, hlast, hspot⟩
    · rw [hsame']
      rcases h.documents x hx with hsame | hmay | ⟨presetId, token, hfirst, hlast, hspot⟩
      · exact .inl hsame
      · exact .inr (.inl hmay)
      · exact .inr (.inr ⟨presetId, token, hfirst, Nat.lt_of_lt_of_le hlast h'.tokens, hspot⟩)
    · rcases h.documents x hx with hsame | hmay | ⟨presetId, token, hfirst, hlast, hspot⟩
      · exact .inr (.inl (hsame ▸ hmay'))
      · exact .inr (.inl (htrans x _ _ _ hmay hmay'))
      · exact .inr (.inr ⟨presetId, token, hfirst, Nat.lt_of_lt_of_le hlast h'.tokens, hspot⟩)
    · rw [h.now_eq] at hspot
      exact .inr (.inr ⟨presetId, token, Nat.le_trans h.tokens hfirst, hlast, hspot⟩)
  sound hclock x hx hsound :=
    h'.sound (h.now_eq.symm ▸ hclock) x hx (h.sound hclock x hx hsound)

/-- Where every document is in the file of its id, that is so afterwards. The clock counts
because a new document is only as readable as the times in it. -/
theorem consistent (h : Frame home may s after) (hclock : s.now.Proper)
    (hconsistent : Consistent home s) : Consistent home after :=
  fun x hx => h.sound hclock x hx (hconsistent x hx)

end Frame

/-- Nothing named: the frame of all operations but saving and deleting. -/
theorem chains_frame (home : Location) : Chains (Frame home Untouched) where
  refl := Frame.refl home Untouched
  trans := Frame.trans fun _ _ _ _ h _ => h.elim
  cwd := Frame.cwd_eq

/-- One document that may go; what has gone may go again. -/
theorem chains_removed (home place : Location) : Chains (Frame home (Removed place)) where
  refl := Frame.refl home _
  trans := Frame.trans fun _ _ _ _ h h' => ⟨h.1, h'.2⟩
  cwd := Frame.cwd_eq

/-- One document that may be written anew, as often as one likes. It was there before, and it
is there behind each of them. -/
theorem chains_rewritten (home place : Location) : Chains (Frame home (Rewritten place)) where
  refl := Frame.refl home _
  trans := Frame.trans fun _ _ _ _ h h' => ⟨h.1, h.2.1, h'.2.2⟩
  cwd := Frame.cwd_eq

/-- Where no document may be touched, any may be. -/
theorem Frame.of_untouched (h : Frame home Untouched s after) : Frame home may s after :=
  h.mono fun _ _ hfalse => hfalse.elim

/-- No document has changed, and nothing but the disk has. -/
structure Quiet (home : Location) (s after : Session) : Prop where
  same : OnlyDisk s after
  directories : ∀ x, s.disk.lookup x = some .directory → after.disk.lookup x = some .directory
  documents : ∀ x, IsDocument home x → after.disk.file? x = s.disk.file? x

/-- Quiet steps make up quiet tasks. -/
theorem chains_quiet (home : Location) : Chains (Quiet home) where
  refl _ := ⟨rfl, fun _ hx => hx, fun _ _ => rfl⟩
  trans h h' := ⟨chains_onlyDisk.trans h.same h'.same,
    fun x hx => h'.directories x (h.directories x hx),
    fun x hx => (h'.documents x hx).trans (h.documents x hx)⟩
  cwd h := by rw [h.same]

/-- What is quiet has every frame. -/
theorem Quiet.frame (h : Quiet home s after) : Frame home may s after where
  same := by rw [h.same]
  tokens := Nat.le_of_eq (by rw [h.same])
  directories := h.directories
  documents x hx := .inl (h.documents x hx)
  sound _ x hx hsound := by rwa [h.documents x hx]

/-- Files that are no documents do not count. -/
theorem quiet_of_touches {touched : Location → Option Files.Content → Prop}
    (h : Touches touched s after) (hno : ∀ x content, touched x content → ¬ IsDocument home x) :
    Quiet home s after where
  same := h.same
  directories := h.directories
  documents x hx := (h.files x).resolve_right fun htouched => hno x _ htouched hx

/-! ## 4. Reading and writing documents -/

/-- A time that was read is proper, whatever else the document says. -/
theorem yields_time : timeReader.Yields Timestamp.Proper := by
  refine Json.yields_parsed fun t time hparse => ?_
  cases htime : Timestamp.ofText? t with
  | none => rw [htime] at hparse; cases hparse
  | some read =>
    rw [htime] at hparse
    rw [← Except.ok.inj hparse]
    exact Timestamp.proper_of_ofText? htime

/-- The times that were read so far are proper. -/
def Draft.Partial.Proper (state : Draft.Partial) : Prop :=
  (∀ time ∈ state.created, time.Proper) ∧ ∀ time ∈ state.updated, time.Proper

/-- Reading a document, every field keeps the times proper that were read before it. The
fields are of two kinds, and only the last two say times. -/
theorem keeps_proper : ∀ field ∈ Draft.shape.fields, field.Keeps Draft.Partial.Proper := by
  have hstring : Reader.string.Yields fun _ => True := fun _ _ _ _ _ => trivial
  intro field hfield
  unfold Draft.shape at hfield
  simp only [List.mem_cons, List.not_mem_nil, or_false] at hfield
  -- only the last two fields change the times
  rcases hfield with rfl | rfl | rfl | rfl | rfl | rfl | rfl
  · exact Json.keeps_make hstring fun state x hstate _ => hstate
  · exact Json.keeps_make hstring fun state x hstate _ => hstate
  · exact Json.keeps_make hstring fun state x hstate _ => hstate
  · exact Json.keeps_make hstring fun state x hstate _ => hstate
  · exact Json.keeps_make hstring fun state x hstate _ => hstate
  · exact Json.keeps_make yields_time fun state x hstate hx =>
      ⟨fun time htime => Option.some.inj htime ▸ hx, hstate.2⟩
  · exact Json.keeps_make yields_time fun state x hstate hx =>
      ⟨hstate.1, fun time htime => Option.some.inj htime ▸ hx⟩

/-- A value that is required and is there was read. -/
theorem mem_of_required {name : Text} {value : Option Timestamp} {time : Timestamp}
    (h : required name value = .ok time) : time ∈ value := by
  cases value with
  | none => cases h
  | some given => exact congrArg some (Except.ok.inj h)

/-- **A draft that was read** is read back when it is written again. Autosaving rewrites what
it has read, so this is what it relies on. -/
theorem readsBack_of_readDocument {t : Text} (h : readDocument t = some draft) : draft.ReadsBack := by
  have hrecord : Draft.shape.reader.Yields Draft.ReadsBack := by
    -- the invariant of the fields: times that were read are proper
    have hnone : ∀ time ∈ (none : Option Timestamp), time.Proper := fun _ hmem => nomatch hmem
    refine Json.yields_shape ⟨hnone, hnone⟩ keeps_proper fun state draft hstate hfinish => ?_
    obtain ⟨id, -, hfinish⟩ := Json.exists_of_bind_ok hfinish
    obtain ⟨name, -, hfinish⟩ := Json.exists_of_bind_ok hfinish
    obtain ⟨created, hcreated, hfinish⟩ := Json.exists_of_bind_ok hfinish
    obtain ⟨updated, hupdated, hfinish⟩ := Json.exists_of_bind_ok hfinish
    rw [← Except.ok.inj hfinish]
    exact ⟨(hstate.1 _ (mem_of_required hcreated)).readsBack,
      (hstate.2 _ (mem_of_required hupdated)).readsBack⟩
  unfold readDocument Files.decodeOr at h
  split at h
  next value hrun => exact (Json.yields_optional hrecord).run hrun draft h
  next => cases h

/-- What was written as a draft is read as that draft. -/
theorem readDocument_toJson (h : draft.ReadsBack) : readDocument draft.toJson.pretty = some draft :=
  decodeOr_draft h

/-- **Reading a draft.** The text of its document is read, if its directory is there. This is
the one place where a look at a draft is turned into a look at a file; all that follows
compares files. -/
theorem readDraft_eq_some_iff (hin : store.In home s.cwd) :
    readDraft s store id = some draft ↔
      HasFolder s store (.draft id) ∧ Disk.Fits ((Slot.draft id).folder store) (Slot.draft id).name ∧
        ∃ t, s.disk.file? (spot home store.presetId id) = some (.text t) ∧
          readDocument t = some draft := by
  have hentry : ∀ file, s.disk.entry? s.cwd (store.draftPath id) = some (.file file) ↔
      HasFolder s store (.draft id) ∧ Disk.Fits ((Slot.draft id).folder store) (Slot.draft id).name ∧
        s.disk.file? (spot home store.presetId id) = some file := by
    intro file
    rw [draftPath_eq, Slot.path, Disk.entry?_eq_file_iff (Slot.draft id).plainName_name,
      ← Slot.path, ← draftPath_eq, target_draft hin]
    rfl
  -- what is no file, and what is no text, reads as nothing
  rw [readDraft, Files.Disk.readRecord_eq]
  constructor
  · intro h
    split at h
    next t hfile =>
      obtain ⟨hfolder, hfits, hfile⟩ := (hentry _).1 hfile
      exact ⟨hfolder, hfits, t, hfile, h⟩
    next => cases h
  · rintro ⟨hfolder, hfits, t, hfile, hread⟩
    rw [(hentry _).2 ⟨hfolder, hfits, hfile⟩]
    exact hread

/-- Writing a draft changes its document and no other one. -/
theorem saveDraft_frame (draft : Draft) (hin : store.In home s.cwd)
    (hback : s.now.Proper → draft.ReadsBack) {result : Except StoreError Unit}
    (h : Ends (store.saveDraft draft) s result after) :
    Frame home (fun x _ new => x = spot home store.presetId draft.id ∧ new.isSome = true) s after := by
  obtain ⟨outcome, hwrite, -⟩ := Task.ends_mapError.1 h
  have htouches := (Files.writeWhole_touches _ _).ends rfl hwrite
  -- of the files that are touched only the draft's own is a document
  have hreplaced : ∀ x, IsDocument home x → after.disk.file? x = s.disk.file? x ∨
      x = spot home store.presetId draft.id ∧
        after.disk.file? x = some (.text draft.toJson.pretty) := by
    intro x hx
    rcases htouches.files x with hsame | ⟨hplace, hcontent⟩ | hsibling
    · exact .inl hsame
    · rw [target_draft hin] at hplace
      exact .inr ⟨hplace, hcontent⟩
    · rw [draftPath_eq, target_sibling hin] at hsibling
      exact absurd (hsibling ▸ hx) (not_isDocument_sibling home _ _)
  refine ⟨by rw [htouches.same], Nat.le_of_eq (by rw [htouches.same]), htouches.directories,
    fun x hx => ?_, fun hclock x hx hsound => ?_⟩
  · rcases hreplaced x hx with hsame | ⟨hplace, hcontent⟩
    · exact .inl hsame
    · exact .inr (.inl ⟨hplace, by rw [hcontent]; rfl⟩)
  · rcases hreplaced x hx with hsame | ⟨hplace, hcontent⟩
    · rwa [hsame]
    · intro t read ht hread
      rw [hcontent] at ht
      obtain rfl : draft.toJson.pretty = t := by simpa using ht
      rw [readDocument_toJson (hback hclock)] at hread
      rw [← Option.some.inj hread]
      exact ⟨store.presetId, hplace⟩

/-- Saving a file that is no document. -/
theorem save_quiet (slot : Slot) (hin : store.In home cwd) (hslot : ∀ id, slot ≠ .draft id)
    (value : Json) : (Store.save (slot.path store) value).Does cwd (Quiet home) := by
  refine (Task.does_mapError (Files.writeWhole_touches _ _)).mono fun s after htouches => ?_
  refine quiet_of_touches htouches fun x content htouched => ?_
  -- the file itself is too high up to be a document, its sibling has the wrong name
  rcases htouched with ⟨rfl, -⟩ | rfl
  · rw [target_slot hin]
    apply not_isDocument_of_length
    cases slot with
    | index => simp [Slot.place]
    | active => simp [Slot.place]
    | draft id => exact absurd rfl (hslot id)
  · rw [target_sibling hin]
    exact not_isDocument_sibling home _ _

/-- Saving the index is quiet. -/
theorem saveIndex_quiet (hin : store.In home cwd) (index : Index) :
    (store.saveIndex index).Does cwd (Quiet home) :=
  save_quiet .index hin (fun _ => Slot.noConfusion) _

/-- So is saying which draft was opened last. -/
theorem setActive_quiet (hin : store.In home cwd) (id : Text) :
    (store.setActive id).Does cwd (Quiet home) :=
  save_quiet .active hin (fun _ => Slot.noConfusion) _

/-- Being quiet, it has the frame of whatever it is a part of. -/
theorem saveIndex_frame (hin : store.In home cwd) (index : Index) :
    (store.saveIndex index).Does cwd (Frame home may) :=
  (saveIndex_quiet hin index).mono fun _ _ => Quiet.frame

theorem setActive_frame (hin : store.In home cwd) (id : Text) :
    (store.setActive id).Does cwd (Frame home may) :=
  (setActive_quiet hin id).mono fun _ _ => Quiet.frame

/-! ## 5. Operations -/

/-- Saving changes nothing but the disk. -/
theorem save_onlyDisk (path : Path) (value : Json) : (Store.save path value).Does cwd OnlyDisk :=
  (Task.does_mapError (Files.writeWhole_touches _ _)).mono fun _ _ htouches => htouches.same

/-- No id is made for an autosave. -/
theorem autosave_onlyDisk (store : Store) (id : Text) (content : Content) :
    (store.autosave id content).Does cwd OnlyDisk := by
  have hchains := chains_onlyDisk
  refine Task.does_bind hchains (Task.does_lift hchains fun _ => rfl) fun found => ?_
  cases found with
  | none => exact Task.does_pure hchains _
  | some draft =>
    refine Task.does_bind hchains (Task.does_get hchains) fun s => ?_
    refine Task.does_bind hchains (save_onlyDisk _ _) fun _ => ?_
    refine Task.does_bind hchains (Task.does_lift hchains fun _ => rfl) fun index => ?_
    exact Task.does_bind hchains (save_onlyDisk _ _) fun _ => Task.does_pure hchains _

/-- To look at the index is to change nothing, and so are the next two looks. -/
theorem looks_index (store : Store) : Session.Looks store.index := fun _ => rfl

theorem looks_get? (store : Store) (id : Text) : Session.Looks (store.get? id) := fun _ => rfl

theorem looks_candidates (store : Store) (index : Index) : Session.Looks (store.candidates index) :=
  fun s => by rw [candidates_run]

/-- **Making a draft** changes the document of a new id only. -/
theorem insertNew_frame (hin : store.In home cwd) (name : Text) (content : Content) :
    (store.insertNew name content).Does cwd (Frame home Untouched) := by
  have hchains := chains_frame home
  intro s result after hcwd hends
  subst hcwd
  by_cases hname : (Text.trim name).isEmpty = true
  · rw [(insertNew_refused hname hends).2]
    exact hchains.refl s
  · have hends := ends_insertNew hname hends
    -- whether the document is written or not, it has the id that was just made
    have hdraft : ∀ {result : Except StoreError Unit} {between : Session},
        Ends (store.saveDraft ((Moment.of s).draft name content))
          { s with nextToken := s.nextToken + 1 } result between → Frame home Untouched s between := by
      intro result between hsave
      have hback : s.now.Proper → ((Moment.of s).draft name content).ReadsBack :=
        fun hclock => ⟨hclock.readsBack, hclock.readsBack⟩
      have hframe := saveDraft_frame (s := { s with nextToken := s.nextToken + 1 }) _ hin hback hsave
      have hless : s.nextToken < between.nextToken := hframe.tokens
      refine ⟨hframe.same, Nat.le_of_lt hless, hframe.directories, fun x hx => ?_, hframe.sound⟩
      rcases hframe.documents x hx with hsame | ⟨hplace, -⟩ | ⟨presetId, token, hfirst, hlast, hspot⟩
      · exact .inl hsame
      · exact .inr (.inr ⟨store.presetId, s.nextToken, Nat.le_refl _, hless, hplace⟩)
      · exact .inr (.inr ⟨presetId, token, Nat.le_of_succ_le hfirst, hlast, hspot⟩)
    rcases Task.ends_bind.1 hends with ⟨problem, hsave, -⟩ | ⟨_, between, hsave, hrest⟩
    · exact hdraft hsave
    · have hfirst := hdraft hsave
      refine hchains.trans hfirst (Task.Does.ends ?_ hfirst.cwd_eq hrest)
      refine Task.does_bind hchains (Task.does_lift hchains (looks_index store)) fun index => ?_
      refine Task.does_bind hchains (saveIndex_frame hin _) fun _ => ?_
      exact Task.does_pure hchains _

/-- Making a draft and opening it changes no more documents than making it. -/
theorem saveAs_frame (hin : store.In home cwd) (name : Text) (content : Content) :
    (store.saveAs name content).Does cwd (Frame home Untouched) := by
  have hchains := chains_frame home
  refine Task.does_bind hchains (insertNew_frame hin name content) fun draft => ?_
  exact Task.does_bind hchains (setActive_frame hin draft.id) fun _ => Task.does_pure hchains _

theorem create_frame (hin : store.In home cwd) (name : Text) :
    (store.create name).Does cwd (Frame home Untouched) := saveAs_frame hin name store.defaults

/-- Opening a store may make a starter draft, which is a new document. -/
theorem prepare_frame (hin : store.In home cwd) : store.prepare.Does cwd (Frame home Untouched) := by
  have hchains := chains_frame home
  have hstarter : (do
      if (← Task.lift store.index).order.isEmpty then
        let starter ← store.insertNew Store.starterName store.defaults
        store.setActive starter.id : Task StoreError Unit).Does cwd (Frame home Untouched) := by
    refine Task.does_bind hchains (Task.does_lift hchains (looks_index store)) fun index => ?_
    split
    · refine Task.does_bind hchains (insertNew_frame hin _ _) fun starter => ?_
      exact setActive_frame hin starter.id
    · exact Task.does_pure hchains _
  unfold Store.prepare
  refine Task.does_bind hchains (Task.does_lift hchains fun _ => rfl) fun there => ?_
  -- without an index an empty one is saved first
  cases there with
  | true => exact hstarter
  | false => exact Task.does_bind hchains (saveIndex_frame hin .empty) fun _ => hstarter

/-- Opening a preset's store gives the store of the preset. -/
theorem openFor_store {root : Path} {preset : Preset}
    (h : Ends (Store.openFor root preset) s (.ok store) after) : store = Store.ofPreset root preset := by
  obtain ⟨_, _, -, hpure⟩ := Task.ends_bind_ok.1 h
  exact Except.ok.inj (Task.ends_pure.1 hpure).1

/-- So opening a store names no document. -/
theorem openFor_frame {root : Path} (hroot : Disk.target cwd root = home) (preset : Preset) :
    (Store.openFor root preset).Does cwd (Frame home Untouched) := by
  have hchains := chains_frame home
  exact Task.does_bind hchains (prepare_frame (in_ofPreset hroot preset)) fun _ =>
    Task.does_pure hchains _

/-- Opening a store, and something else then that is done to that store. -/
theorem openFor_bind_frame {root : Path} {preset : Preset} {α : Type} {rest : Store → Task StoreError α}
    (hroot : Disk.target cwd root = home)
    (hrest : ∀ {store : Store}, store.In home cwd → (rest store).Does cwd (Frame home Untouched)) :
    (do rest (← Store.openFor root preset) : Task StoreError α).Does cwd (Frame home Untouched) := by
  intro s result after hcwd hends
  have hopen := openFor_frame hroot preset
  rcases Task.ends_bind.1 hends with ⟨problem, hends, -⟩ | ⟨store, between, hends, hlast⟩
  · exact hopen.ends hcwd hends
  · have hfirst := hopen.ends hcwd hends
    have hin : store.In home cwd := openFor_store hends ▸ in_ofPreset hroot preset
    exact (chains_frame home).trans hfirst ((hrest hin).ends (hfirst.cwd_eq.trans hcwd) hlast)

/-- What recovery ends with: a draft that was found, or one that is made. -/
theorem does_found {R : Session → Session → Prop} (hchains : Chains R)
    (hmade : (store.insertNew Store.starterName store.defaults).Does cwd R) (found : Option Draft) :
    (match found with
      | some draft => return draft
      | none => store.insertNew Store.starterName store.defaults :
      Task StoreError Draft).Does cwd R := by
  cases found with
  | some draft => exact Task.does_pure hchains draft
  | none => exact hmade

/-- Recovery drops ids from the index. The documents that could not be read stay where they
are, and the draft that it may make is a new one. -/
theorem recover_frame (hin : store.In home cwd) : store.recover.Does cwd (Frame home Untouched) := by
  have hchains := chains_frame home
  have hfound := does_found hchains (insertNew_frame hin Store.starterName store.defaults)
  unfold Store.recover
  refine Task.does_bind hchains (Task.does_lift hchains (looks_index store)) fun index => ?_
  refine Task.does_bind hchains (Task.does_lift hchains (looks_candidates store index))
    fun candidates => ?_
  simp only
  split
  · exact Task.does_bind hchains (saveIndex_frame hin _) fun _ => hfound _
  · exact hfound _

/-- Opening a draft changes no document, recovery or not. -/
theorem load_frame (hin : store.In home cwd) (id : Text) :
    (store.load id).Does cwd (Frame home Untouched) := by
  have hchains := chains_frame home
  have hactive : ∀ draft : Draft, (do
      store.setActive draft.id
      return draft : Task StoreError Draft).Does cwd (Frame home Untouched) := fun draft =>
    Task.does_bind hchains (setActive_frame hin draft.id) fun _ => Task.does_pure hchains _
  unfold Store.load
  refine Task.does_bind hchains (Task.does_lift hchains (looks_get? store id)) fun found => ?_
  cases found with
  | some draft => exact Task.does_bind hchains (Task.does_pure hchains draft) hactive
  | none => exact Task.does_bind hchains (recover_frame hin) hactive

/-- Neither does opening the draft that was opened last. -/
theorem loadActive_frame (hin : store.In home cwd) :
    store.loadActive.Does cwd (Frame home Untouched) := by
  have hchains := chains_frame home
  refine Task.does_bind hchains (Task.does_lift hchains fun s => ?_) fun id => load_frame hin _
  unfold Store.activeId
  rw [Session.run_bind]
  cases (store.index.run s).1.order.head? <;> rfl

/-- Marking the draft that takes the place of a deleted one touches no document, and neither does
the panic where there is none. -/
theorem promote_quiet (hin : store.In home cwd) (index : Index) :
    (store.promote index).Does cwd (Quiet home) := by
  have hchains := chains_quiet home
  refine Task.does_bind hchains (Task.does_entryAt hchains _ _) fun first => ?_
  exact Task.does_bind hchains (Task.does_certain (setActive_quiet hin first)) fun _ =>
    Task.does_pure hchains _

/-- **Deleting a draft** removes its document and changes no other one. -/
theorem delete_frame (hin : store.In home cwd) (id : Text) :
    (store.delete id).Does cwd (Frame home (Removed (spot home store.presetId id))) := by
  have hchains := chains_removed home (spot home store.presetId id)
  have hremove : (Task.mapError (StoreError.write (store.draftPath id))
      (Files.removeIfPresent (store.draftPath id))).Does cwd
        (Frame home (Removed (spot home store.presetId id))) := by
    have htouch : (Files.removeIfPresent (store.draftPath id)).Does cwd
        (Touches fun x content => x = spot home store.presetId id ∧ content = none) :=
      Files.removeIfPresent_touches ⟨target_draft hin id, rfl⟩
    refine Task.does_mapError (htouch.mono fun s after htouches => ?_)
    refine ⟨by rw [htouches.same], Nat.le_of_eq (by rw [htouches.same]), htouches.directories,
      fun x hx => ?_, fun _ x hx hsound => ?_⟩
    · exact (htouches.files x).imp_right .inl
    · rcases htouches.files x with hsame | ⟨-, hnone⟩
      · rwa [hsame]
      · intro t draft ht
        rw [hnone] at ht
        cases ht
  unfold Store.delete
  refine Task.does_bind hchains (Task.does_certain ?_) fun rest =>
    (promote_quiet hin rest).mono fun _ _ => Quiet.frame
  unfold Store.remove
  refine Task.does_bind hchains (Task.does_lift hchains (looks_index store)) fun index => ?_
  simp only
  -- the two refusals come before anything is removed
  split
  · exact Task.does_throw hchains _
  split
  · exact Task.does_throw hchains _
  refine Task.does_bind hchains hremove fun _ => ?_
  exact Task.does_bind hchains (saveIndex_frame hin _) fun _ => Task.does_pure hchains _

end MarkupDesk.Drafts
