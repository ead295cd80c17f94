/-
`Proofs/Drafts/Shelved.lean` -- files that hold the drafts of a shelf.

The three kinds of files of a store are tied together by one invariant: the index tells what
is on the shelf (`Tells`), and for every id that was given out there is a file exactly if
there is a draft, which the file holds (`Shelved`). A writing operation saves or removes a
document and then the index. The invariant does not hold in between, but does so again
behind both, and each lemma below is about such a pair.
-/
import MarkupDesk.Proofs.Drafts.Reading

set_option autoImplicit false

namespace MarkupDesk.Drafts

open MarkupDesk.Task (Ends)

/-! ## 1. Indexes that tell of a shelf -/

/-- What the index repeats of a draft. -/
def Draft.mention (draft : Draft) : Mention := ⟨draft.name, draft.updated⟩

/-- The index tells the order of the drafts and repeats the name and the time of each. -/
structure Tells (index : Index) (shelf : Shelf) : Prop where
  order : index.order = shelf.ids
  mentions : ∀ id, Dictionary.get? index.mentions id = (shelf.find? id).map Draft.mention
  distinct : (Dictionary.keys index.mentions).Nodup

/-- What a shelf is at any time: the ids of its drafts stand once and were given out, and
their times are read back. -/
structure Shelf.Sound (shelf : Shelf) (issued : List Text) : Prop where
  given : ∀ id ∈ shelf.ids, id ∈ issued
  distinct : shelf.ids.Nodup
  times : ∀ draft ∈ shelf.drafts, draft.ReadsBack

namespace Tells

variable {index : Index} {shelf : Shelf} {issued : List Text} {draft : Draft}

/-- An index without entries tells of an empty shelf. -/
theorem empty : Tells .empty .empty := ⟨rfl, fun _ => rfl, List.nodup_nil⟩

/-- Entering a draft into the index is putting it in front on the shelf. -/
theorem add (h : Tells index shelf) (draft : Draft) (active : Option Text) :
    Tells (index.add draft) ⟨draft :: shelf.drafts, active⟩ := by
  refine ⟨?_, fun id => ?_, Dictionary.nodup_keys_insert h.distinct _ _⟩
  · rw [Index.add, h.order]
    rfl
  · rw [Shelf.find?_cons draft shelf.drafts active shelf.active, Index.add]
    by_cases hid : draft.id = id
    · subst hid
      rw [if_pos rfl, Dictionary.get?_insert_self]
      rfl
    · rw [if_neg hid, Dictionary.get?_insert_of_ne (Ne.symm hid), h.mentions]

/-- Writing a draft anew changes what is mentioned of it; name and id are the old ones, so
neither the order nor another entry changes. -/
theorem touch (h : Tells index shelf) {saved : Draft} (hfind : shelf.find? draft.id = some draft)
    (hid : saved.id = draft.id) (hname : saved.name = draft.name) (active : Option Text) :
    Tells (index.touch draft.id saved)
      ⟨shelf.drafts.map fun other => if other.id = draft.id then saved else other, active⟩ := by
  have hmem : draft.id ∈ shelf.ids := List.mem_map_of_mem (Shelf.mem_of_find? hfind)
  refine ⟨?_, fun id => ?_, Dictionary.nodup_keys_insert h.distinct _ _⟩
  · rw [Index.touch, h.order, Shelf.ids_replace hid]
  · rw [Shelf.find?_replace hid hmem, Index.touch]
    by_cases hsame : draft.id = id
    · subst hsame
      rw [if_pos rfl, Dictionary.get?_insert_self, h.mentions, hfind]
      simp [Draft.mention, hname]
    · rw [if_neg hsame, Dictionary.get?_insert_of_ne (Ne.symm hsame), h.mentions]

/-- Dropping an id from the index is taking the draft off the shelf. -/
theorem drop (h : Tells index shelf) (gone : Text) (active : Option Text) :
    Tells (index.drop [gone]) ⟨shelf.drafts.filter fun draft => draft.id ≠ gone, active⟩ := by
  refine ⟨?_, fun id => ?_, ?_⟩
  · rw [Index.drop, h.order, Shelf.ids_filter]
    apply List.filter_congr
    intro id _
    simp
  · rw [Shelf.find?_filter, Index.drop, List.foldl_cons, List.foldl_nil]
    by_cases hid : gone = id
    · rw [if_pos hid, hid, Dictionary.get?_erase_self]
      rfl
    · rw [if_neg hid, Dictionary.get?_erase_of_ne (Ne.symm hid), h.mentions]
  · exact h.distinct.sublist ((List.filter_sublist).map _)

/-- **An index that tells of a sound shelf reads back.** -/
theorem readsBack (h : Tells index shelf) (hsound : shelf.Sound issued) : index.ReadsBack := by
  refine ⟨h.distinct, fun pair hpair => ?_⟩
  -- what is mentioned is on the shelf, and so its time is one of a draft
  have hget := Dictionary.get?_eq_some_of_mem h.distinct hpair
  rw [h.mentions] at hget
  obtain ⟨draft, hdraft, hmention⟩ := Option.map_eq_some_iff.1 hget
  rw [← hmention]
  exact (hsound.times draft (Shelf.mem_of_find? hdraft)).2

/-- The list of drafts that is made of the index. -/
theorem summaries_eq (h : Tells index shelf) (hsound : shelf.Sound issued) :
    index.summaries = shelf.drafts.map Shelf.summary := by
  rw [Index.summaries, h.order, Shelf.ids, List.map_map]
  apply List.map_congr_left
  intro draft hdraft
  rw [Function.comp, Index.summary, h.mentions, Shelf.find?_of_mem hsound.distinct hdraft]
  rfl

end Tells

/-! ## 2. Sound shelves -/

namespace Shelf.Sound

variable {shelf : Shelf} {issued : List Text} {draft : Draft}

/-- The empty shelf is sound, with no ids given out. -/
theorem empty : Shelf.Sound .empty [] :=
  ⟨fun _ h => h, List.nodup_nil, fun _ h => absurd h List.not_mem_nil⟩

/-- A new draft has an id that was not given out before, so the shelf stays one of different
ids. -/
theorem cons (h : shelf.Sound issued) (hnew : draft.id ∉ issued) (htimes : draft.ReadsBack)
    (active : Option Text) : Shelf.Sound ⟨draft :: shelf.drafts, active⟩ (draft.id :: issued) := by
  refine ⟨fun id hid => ?_, ?_, fun other hother => ?_⟩
  · rcases List.mem_cons.1 hid with rfl | hid
    · exact List.mem_cons_self
    · exact List.mem_cons_of_mem _ (h.given id hid)
  · exact List.nodup_cons.2 ⟨fun hmem => hnew (h.given _ hmem), h.distinct⟩
  · rcases List.mem_cons.1 hother with rfl | hother
    · exact htimes
    · exact h.times other hother

/-- A draft that is written anew keeps its id, and its times have to read back. -/
theorem replace (h : shelf.Sound issued) {saved : Draft} (hid : saved.id = draft.id)
    (htimes : saved.ReadsBack) (active : Option Text) :
    Shelf.Sound ⟨shelf.drafts.map fun other => if other.id = draft.id then saved else other, active⟩
      issued := by
  have hids := @Shelf.ids_replace shelf _ _ active hid
  refine ⟨by rw [hids]; exact h.given, by rw [hids]; exact h.distinct, fun other hother => ?_⟩
  obtain ⟨old, hold, rfl⟩ := List.mem_map.1 hother
  split
  · exact htimes
  · exact h.times old hold

/-- Taking drafts away keeps a shelf sound. The ids stay given out, so that none of them is
made again. -/
theorem filter (h : shelf.Sound issued) (keep : Draft → Bool) (active : Option Text) :
    Shelf.Sound ⟨shelf.drafts.filter keep, active⟩ issued := by
  have hsublist : (Shelf.ids ⟨shelf.drafts.filter keep, active⟩).Sublist shelf.ids :=
    (List.filter_sublist).map _
  exact ⟨fun id hid => h.given id (hsublist.subset hid), h.distinct.sublist hsublist,
    fun draft hdraft => h.times draft (List.mem_of_mem_filter hdraft)⟩

end Shelf.Sound

/-! ## 3. Files that hold a shelf -/

/-- The files of a store hold the drafts of a shelf: of the ids that were given out exactly
those on the shelf have a document, and the index tells of the shelf. -/
structure Shelved (s : Session) (store : Store) (shelf : Shelf) (issued : List Text) : Prop where
  folder : HasFolder s store .index
  folders : ∀ id ∈ issued, HasFolder s store (.draft id)
  tells : Tells (readIndex s store) shelf
  index : entryOf s store .index = some (document (readIndex s store).toJson)
  documents : ∀ id ∈ issued,
    entryOf s store (.draft id) = (shelf.find? id).map fun draft => document draft.toJson
  clean : ∀ id ∈ issued, IsClean id
  sound : shelf.Sound issued

namespace Shelved

variable {s between after : Session} {store : Store} {shelf : Shelf} {issued : List Text}
  {draft : Draft} {id : Text}

/-- Which draft was opened last, the clock and the tokens have nothing to do with it. -/
theorem congr {other : Shelf} (h : Shelved s store shelf issued) (hdisk : after.disk = s.disk)
    (hcwd : after.cwd = s.cwd) (hdrafts : other.drafts = shelf.drafts) :
    Shelved after store other issued := by
  obtain ⟨drafts, active⟩ := shelf
  obtain ⟨drafts', active'⟩ := other
  obtain ⟨disk, cwd⟩ := s
  obtain ⟨disk', cwd'⟩ := after
  subst hdrafts hdisk hcwd
  exact ⟨h.folder, h.folders, ⟨h.tells.order, h.tells.mentions, h.tells.distinct⟩, h.index,
    h.documents, h.clean, ⟨h.sound.given, h.sound.distinct, h.sound.times⟩⟩

/-- **Drafts are read as they are on the shelf.** -/
theorem readDraft_eq (h : Shelved s store shelf issued) (hid : id ∈ issued) :
    readDraft s store id = shelf.find? id := by
  have hentry := h.documents id hid
  cases hfind : shelf.find? id with
  | none => exact readDraft_of_gone (by rw [hentry, hfind]; rfl)
  | some draft =>
    have htimes := h.sound.times draft (Shelf.mem_of_find? hfind)
    exact readDraft_of_entryOf htimes (by rw [hentry, hfind]; rfl)

/-- **Saving a document and then the index.** The two files are what was saved, and the
others are what they were. -/
theorem saveBoth (hnamed : store.Named) (hfolder : HasFolder s store .index) {index : Index}
    (hreadsBack : index.ReadsBack) (hdraft : Ends (store.saveDraft draft) s (.ok ()) between)
    (hindex : Ends (store.saveIndex index) between (.ok ()) after) :
    HasFolder after store .index ∧ (∀ id, HasFolder after store (.draft id)) ∧
      readIndex after store = index ∧ entryOf after store .index = some (document index.toJson) ∧
      entryOf after store (.draft draft.id) = some (document draft.toJson) ∧
      (∀ id, HasFolder s store (.draft id) → componentName draft.id ≠ componentName id →
        entryOf after store (.draft id) = entryOf s store (.draft id)) ∧
      entryOf after store .active = entryOf s store .active := by
  rw [saveDraft_eq] at hdraft
  rw [saveIndex_eq] at hindex
  -- the directories that are there before a save are there behind it
  have hfolder' : HasFolder between store .index := save_hasFolder hnamed hdraft hfolder
  have hdrafts : HasFolder between store (.draft draft.id) := save_folder hnamed hdraft
  have hsaved := save_self hnamed hindex
  refine ⟨save_folder hnamed hindex, fun id => save_hasFolder hnamed hindex hdrafts,
    readIndex_of_entryOf hreadsBack hsaved, hsaved, ?_, fun id hid hne => ?_, ?_⟩
  · rw [save_other hnamed (Slot.apart_index_draft draft.id) hdrafts hindex, save_self hnamed hdraft]
  · have hother : HasFolder between store (.draft id) := hdrafts
    rw [save_other hnamed (Slot.apart_index_draft id) hother hindex,
      save_other hnamed (Slot.apart_draft_draft hne) hid hdraft]
  · have hactive : HasFolder between store .active := hfolder'
    have hactive' : HasFolder s store .active := hfolder
    rw [save_other hnamed Slot.apart_index_active hactive hindex,
      save_other hnamed (Slot.apart_active_draft draft.id).symm hactive' hdraft]

/-- The index is not touched by the saving of a document. -/
theorem readIndex_saveDraft (h : Shelved s store shelf issued) (hnamed : store.Named)
    (hdraft : Ends (store.saveDraft draft) s (.ok ()) between) :
    readIndex between store = readIndex s store := by
  rw [saveDraft_eq] at hdraft
  refine readIndex_of_entryOf (h.tells.readsBack h.sound) ?_
  rw [save_other hnamed (Slot.apart_index_draft draft.id).symm h.folder hdraft, h.index]

/-- A new draft in front of the others. -/
theorem insert (h : Shelved s store shelf issued) (hnamed : store.Named) (draft : Draft)
    (hnew : draft.id ∉ issued) (hclean : IsClean draft.id) (htimes : draft.ReadsBack)
    (hdraft : Ends (store.saveDraft draft) s (.ok ()) between)
    (hindex : Ends (store.saveIndex ((readIndex between store).add draft)) between (.ok ()) after)
    (active : Option Text) :
    Shelved after store ⟨draft :: shelf.drafts, active⟩ (draft.id :: issued) := by
  rw [h.readIndex_saveDraft hnamed hdraft] at hindex
  have hsound := h.sound.cons hnew htimes active
  have htells := h.tells.add draft active
  obtain ⟨hfolder, hfolders, hread, hsaved, hself, hothers, -⟩ :=
    saveBoth hnamed h.folder (htells.readsBack hsound) hdraft hindex
  refine ⟨hfolder, fun id _ => hfolders id, by rwa [hread], by rwa [hread], fun id hid => ?_,
    fun id hid => ?_, hsound⟩
  · rw [Shelf.find?_cons draft shelf.drafts active shelf.active]
    rcases List.mem_cons.1 hid with rfl | hid
    · rw [if_pos rfl, hself]
      rfl
    · -- a new id is the name of a new file
      have hne : draft.id ≠ id := fun heq => hnew (heq ▸ hid)
      rw [if_neg hne, hothers id (h.folders id hid) (componentName_ne hclean (h.clean id hid) hne)]
      exact h.documents id hid
  · rcases List.mem_cons.1 hid with rfl | hid
    · exact hclean
    · exact h.clean id hid

/-- A draft that is there with another content and another time. -/
theorem replace (h : Shelved s store shelf issued) (hnamed : store.Named)
    (hfind : shelf.find? draft.id = some draft) (saved : Draft) (hid : saved.id = draft.id)
    (hname : saved.name = draft.name) (htimes : saved.ReadsBack)
    (hdraft : Ends (store.saveDraft saved) s (.ok ()) between)
    (hindex : Ends (store.saveIndex ((readIndex between store).touch draft.id saved)) between
      (.ok ()) after)
    (active : Option Text) :
    Shelved after store
        ⟨shelf.drafts.map fun other => if other.id = draft.id then saved else other, active⟩ issued ∧
      entryOf after store .active = entryOf s store .active := by
  rw [h.readIndex_saveDraft hnamed hdraft] at hindex
  have hsound := h.sound.replace hid htimes active
  have htells := h.tells.touch hfind hid hname active
  obtain ⟨hfolder, hfolders, hread, hsaved, hself, hothers, hactive⟩ :=
    saveBoth hnamed h.folder (htells.readsBack hsound) hdraft hindex
  have hmem : draft.id ∈ shelf.ids := List.mem_map_of_mem (Shelf.mem_of_find? hfind)
  have hclean := h.clean draft.id (h.sound.given _ hmem)
  refine ⟨⟨hfolder, fun id _ => hfolders id, by rwa [hread], by rwa [hread], fun other hother => ?_,
    h.clean, hsound⟩, hactive⟩
  rw [Shelf.find?_replace hid hmem]
  -- the saved draft is on the shelf now; all others have documents of their own
  by_cases hne : draft.id = other
  · rw [if_pos hne, ← hne, ← hid, hself]
    rfl
  · rw [if_neg hne, hothers other (h.folders other hother)
      (by rw [hid]; exact componentName_ne hclean (h.clean other hother) hne)]
    exact h.documents other hother

/-- All drafts but one. -/
theorem remove (h : Shelved s store shelf issued) (hnamed : store.Named) (hid : id ∈ issued)
    (hremove : Ends (Files.removeIfPresent (store.draftPath id)) s (.ok ()) between)
    (hindex : Ends (store.saveIndex ((readIndex s store).drop [id])) between (.ok ()) after)
    (active : Option Text) :
    Shelved after store ⟨shelf.drafts.filter fun draft => draft.id ≠ id, active⟩ issued := by
  have hsound := h.sound.filter (fun draft => draft.id ≠ id) active
  have htells := h.tells.drop id active
  rw [draftPath_eq] at hremove
  rw [saveIndex_eq] at hindex
  have hsaved := save_self hnamed hindex
  have hread := readIndex_of_entryOf (htells.readsBack hsound) hsaved
  -- removing a file leaves all directories
  have hfolders : ∀ other ∈ issued, HasFolder between store (.draft other) :=
    fun other hother => remove_hasFolder hremove (h.folders other hother)
  refine ⟨save_folder hnamed hindex,
    fun other hother => save_hasFolder hnamed hindex (hfolders other hother), by rwa [hread],
    by rwa [hread], fun other hother => ?_, h.clean, hsound⟩
  rw [save_other hnamed (Slot.apart_index_draft other) (hfolders other hother) hindex,
    Shelf.find?_filter]
  by_cases hne : id = other
  · rw [if_pos hne, ← hne, remove_self hremove]
    rfl
  · have hapart := componentName_ne (h.clean id hid) (h.clean other hother) hne
    rw [if_neg hne, remove_other (Slot.apart_draft_draft hapart) hremove]
    exact h.documents other hother

/-- Another draft that was opened last. -/
theorem activate (h : Shelved s store shelf issued) (hnamed : store.Named)
    (hactive : Ends (store.setActive id) s (.ok ()) after) :
    Shelved after store { shelf with active := some id } issued ∧
      entryOf after store .active = some (document (.string id)) := by
  rw [setActive_eq] at hactive
  -- the mark is in a file of its own, apart from the index and the documents
  have hindex : entryOf after store .index = some (document (readIndex s store).toJson) := by
    rw [save_other hnamed Slot.apart_index_active.symm h.folder hactive, h.index]
  have hread := readIndex_of_entryOf (h.tells.readsBack h.sound) hindex
  refine ⟨⟨save_hasFolder hnamed hactive h.folder,
    fun other hother => save_hasFolder hnamed hactive (h.folders other hother), ?_, by rwa [hread],
    fun other hother => ?_, h.clean, ⟨h.sound.given, h.sound.distinct, h.sound.times⟩⟩,
    save_self hnamed hactive⟩
  · rw [hread]
    exact ⟨h.tells.order, h.tells.mentions, h.tells.distinct⟩
  · rw [save_other hnamed (Slot.apart_active_draft other) (h.folders other hother) hactive]
    exact h.documents other hother

/-- An index of no drafts. -/
theorem start (hnamed : store.Named) (hindex : Ends (store.saveIndex .empty) s (.ok ()) after) :
    Shelved after store .empty [] ∧ after = { s with disk := after.disk } := by
  rw [saveIndex_eq] at hindex
  have hsaved := save_self hnamed hindex
  have hread := readIndex_of_entryOf (Tells.empty.readsBack .empty) hsaved
  refine ⟨⟨save_folder hnamed hindex, fun _ h => absurd h List.not_mem_nil, ?_, by rwa [hread],
    fun _ h => absurd h List.not_mem_nil, fun _ h => absurd h List.not_mem_nil, .empty⟩,
    save_disk hnamed hindex⟩
  rw [hread]
  exact .empty

end Shelved

end MarkupDesk.Drafts
