/-
`Proofs/Drafts/Healing.lean` -- damaged drafts are healed when a store is opened.

The directory of a store may hold anything: no index, one that cannot be read, entries without
a document, documents without an entry, a wrong id as the one that was opened last. Whatever is
read from it can be written again and is read back then (`readIndex_readsBack`), so each step
behind an opening can be followed by what is read before and after it. There are two steps that
heal. Preparing a store whose index is empty makes a draft; recovering drops the entries whose
documents cannot be read and makes a draft if none is left. Both end `Healed`, and opening the
draft that was opened last keeps that.
-/
import MarkupDesk.Proofs.Drafts.Refinement
import MarkupDesk.Proofs.Drafts.Reread

set_option autoImplicit false

namespace MarkupDesk.Drafts

open Calendar (Timestamp)
open Files (Disk Location)
open Json (KeyedBy Reader)
open MarkupDesk.Task (Ends)

/-! ## 1. Indexes that were read -/

/-- Whatever is read as a mention in an index has a time that can be written again. -/
theorem yields_mention : Mention.shape.reader.Yields fun mention => mention.updated.Proper := by
  have hstring : Reader.string.Yields fun _ => True := fun _ _ _ _ _ => trivial
  refine @Json.yields_shape _ _ _ (fun state => ∀ time ∈ state.updated, time.Proper) _
    (fun _ hmem => nomatch hmem) ?_ fun state mention hstate hfinish => ?_
  · intro field hfield
    unfold Mention.shape at hfield
    simp only [List.mem_cons, List.not_mem_nil, or_false] at hfield
    -- the name does not matter, and the time is proper when it is read
    rcases hfield with rfl | rfl
    · exact Json.keeps_make hstring fun state x hstate _ => hstate
    · exact Json.keeps_make yields_time fun state x _ hx time htime => Option.some.inj htime ▸ hx
  · obtain ⟨name, -, hfinish⟩ := Json.exists_of_bind_ok hfinish
    obtain ⟨updated, hupdated, hfinish⟩ := Json.exists_of_bind_ok hfinish
    rw [← Except.ok.inj hfinish]
    exact hstate _ (mem_of_required hupdated)

/-- Whatever is read as an index can be written again: no draft is mentioned twice, because a
dictionary is read by inserting, and the times are proper. -/
theorem yields_index : Index.shape.reader.Yields Index.ReadsBack := by
  have horder : (Reader.list Reader.string).Yields fun _ => True := fun _ _ _ _ _ => trivial
  refine @Json.yields_shape _ _ _
    (fun state => ∀ mentions ∈ state.mentions, KeyedBy (fun mention => mention.updated.Proper) mentions)
    _ (fun _ hmem => nomatch hmem) ?_ fun state index hstate hfinish => ?_
  · intro field hfield
    unfold Index.shape at hfield
    simp only [List.mem_cons, List.not_mem_nil, or_false] at hfield
    rcases hfield with rfl | rfl
    · exact Json.keeps_make horder fun state x hstate _ => hstate
    · exact Json.keeps_make (Json.yields_dictionary yields_mention)
        fun state x _ hx mentions hmentions => Option.some.inj hmentions ▸ hx
  · rw [← Except.ok.inj hfinish]
    -- an index may lack its mentions, and stands for one without any then
    cases hmentions : state.mentions with
    | none => exact ⟨List.nodup_nil, fun _ hmem => nomatch hmem⟩
    | some mentions =>
      obtain ⟨hdistinct, htimes⟩ := hstate mentions hmentions
      exact ⟨hdistinct, fun pair hpair => (htimes pair hpair).readsBack⟩

namespace Index.ReadsBack

variable {index : Index} {draft : Draft}

/-- The index that stands in for one that is not there. -/
theorem empty : Index.empty.ReadsBack := ⟨List.nodup_nil, fun _ hmem => nomatch hmem⟩

/-- One mention more, or another one of a draft that is mentioned. -/
theorem insert (h : index.ReadsBack) (order : List Text) (id : Text) {mention : Mention}
    (hmention : mention.updated.ReadsBack) :
    Index.ReadsBack ⟨order, Dictionary.insert index.mentions id mention⟩ := by
  refine ⟨Dictionary.nodup_keys_insert h.distinct _ _, fun pair hpair => ?_⟩
  rcases Dictionary.eq_or_mem_of_mem_insert hpair with rfl | hmem
  · exact hmention
  · exact h.times pair hmem

/-- Entering a draft keeps an index one that is read back, if the draft is; the next two
lemmas say it of entries that are touched and dropped. -/
theorem add (h : index.ReadsBack) (hdraft : draft.ReadsBack) : (index.add draft).ReadsBack :=
  h.insert _ _ hdraft.2

theorem touch (h : index.ReadsBack) (id : Text) (hdraft : draft.ReadsBack) :
    (index.touch id draft).ReadsBack :=
  h.insert _ _ hdraft.2

/-- Dropping ids takes mentions away and adds none. -/
theorem drop (h : index.ReadsBack) (ids : List Text) : (index.drop ids).ReadsBack := by
  have hsublist := Dictionary.sublist_foldl_erase ids index.mentions
  exact ⟨h.distinct.sublist (hsublist.map _), fun pair hpair => h.times pair (hsublist.subset hpair)⟩

end Index.ReadsBack

variable {home : Location} {s between after : Session} {store : Store} {slot : Slot}
  {id first name : Text} {index : Index} {draft doc : Draft} {content : Content}

/-- **An index that was read**, from whatever the file holds, is read back when it is written. -/
theorem readIndex_readsBack (s : Session) (store : Store) : (readIndex s store).ReadsBack := by
  have hdecoded : ∀ t, (Files.decodeOr Index.shape.reader .empty t).ReadsBack := by
    intro t
    unfold Files.decodeOr
    split
    next index hrun => exact yields_index.run hrun
    next => exact .empty
  rw [readIndex, Files.Disk.readRecord_eq]
  split
  · exact hdecoded _
  · exact .empty

/-! ## 2. What is read behind a step -/

/-- Where a file of the store was found, the folder that it is in is there. -/
theorem hasFolder_of_entry {entry : Files.Entry} (h : entryOf s store slot = some entry) :
    HasFolder s store slot := by
  obtain ⟨location, hreach, -⟩ := (Disk.entry?_join_iff slot.plainName_name).1 h
  exact ⟨location, hreach⟩

/-- To ask for the index is to look its slot up. -/
theorem hasEntry_eq (s : Session) (store : Store) :
    s.disk.hasEntry s.cwd store.indexPath = (entryOf s store .index).isSome := rfl

/-- Where there is no index, the empty one is read. -/
theorem readIndex_of_missing (h : s.disk.hasEntry s.cwd store.indexPath = false) :
    readIndex s store = .empty := by
  rw [hasEntry_eq] at h
  have hentry : entryOf s store .index = none := by simpa using h
  change s.disk.entry? s.cwd store.indexPath = none at hentry
  rw [readIndex, Files.Disk.readRecord_eq, hentry]

/-- An index that lists drafts was read from a file. -/
theorem hasEntry_of_order (h : (readIndex s store).order ≠ []) :
    s.disk.hasEntry s.cwd store.indexPath = true := by
  by_contra hmissing
  rw [readIndex_of_missing (Bool.eq_false_iff.2 hmissing)] at h
  exact h rfl

/-- An index that is there stands in a directory that is there. -/
theorem hasFolder_of_hasEntry (h : s.disk.hasEntry s.cwd store.indexPath = true) :
    HasFolder s store .index := by
  rw [hasEntry_eq] at h
  obtain ⟨entry, hentry⟩ := Option.isSome_iff_exists.1 h
  exact hasFolder_of_entry hentry

/-- What is read as the index depends on the slot of the index alone. -/
theorem readIndex_congr (h : entryOf after store .index = entryOf s store .index) :
    readIndex after store = readIndex s store := by
  have hentry : after.disk.entry? after.cwd store.indexPath = s.disk.entry? s.cwd store.indexPath := h
  rw [readIndex, readIndex, Files.Disk.readRecord_eq, Files.Disk.readRecord_eq, hentry]

/-- The index that was saved is read. -/
theorem saveIndex_reads (hnamed : store.Named) (hback : index.ReadsBack)
    (h : Ends (store.saveIndex index) s (.ok ()) after) :
    readIndex after store = index ∧ HasFolder after store .index := by
  rw [saveIndex_eq] at h
  exact ⟨readIndex_of_entryOf hback (save_self hnamed h), save_folder hnamed h⟩

/-- The id that was marked is read, and the index is what it was. -/
theorem setActive_reads (hnamed : store.Named) (hfolder : HasFolder s store .index)
    (h : Ends (store.setActive id) s (.ok ()) after) :
    readIndex after store = readIndex s store ∧ ∀ fallback, readActive fallback after store = id := by
  rw [setActive_eq] at h
  exact ⟨readIndex_congr (save_other hnamed Slot.apart_index_active.symm hfolder h),
    readActive_of_entryOf (save_self hnamed h)⟩

/-- Where drafts are listed, an id is stored or the first one stands in for it. -/
theorem activeId_eq (h : (readIndex s store).order.head? = some first) :
    store.activeId.run s = (some (readActive first s store), s) := by
  have hindex : store.index.run s = (readIndex s store, s) := rfl
  rw [Store.activeId, Session.run_bind, hindex]
  simp only [h]
  rfl

/-- **Making a draft** in a directory that is there puts it in front. Two files are written
one after the other, so at each it has to be said what the other one is: the document does not
change the index, and the index does not change the document. -/
theorem insertNew_reads {result : Except StoreError Draft} (hin : store.In home s.cwd)
    (hclock : s.now.Proper) (hfolder : HasFolder s store .index)
    (hname : ¬ (Text.trim name).isEmpty = true) (hwritten : Written result)
    (h : Ends (store.insertNew name content) s result after) :
    result = .ok ((Moment.of s).draft name content) ∧
      readIndex after store = (readIndex s store).add ((Moment.of s).draft name content) ∧
      HasFolder after store .index ∧
      readDraft after store (Moment.of s).draftId = some ((Moment.of s).draft name content) := by
  have hback : ((Moment.of s).draft name content).ReadsBack := ⟨hclock.readsBack, hclock.readsBack⟩
  have h := ends_insertNew hname h
  obtain ⟨start, hstart⟩ : ∃ start : Session, start = { s with nextToken := s.nextToken + 1 } :=
    ⟨_, rfl⟩
  rw [← hstart] at h
  obtain ⟨between, hdraft, h⟩ := ends_write_bind hwritten h
  obtain ⟨after, hindex, h⟩ := ends_write_bind hwritten (ends_index_bind.1 h)
  obtain ⟨rfl, rfl⟩ := Task.ends_pure.1 h
  have hdraft : Ends (store.saveDraft ((Moment.of s).draft name content)) start (.ok ()) between :=
    hdraft
  have hin' : store.In home start.cwd := by rwa [hstart]
  have hfolder' : HasFolder start store .index := by rwa [hstart]
  -- the document has another slot than the index, so the index that is added to is the old one
  have hsame : readIndex between store = readIndex s store := by
    have hsave := hdraft
    rw [saveDraft_eq] at hsave
    have hother := save_other hin.named (Slot.apart_index_draft _).symm hfolder' hsave
    rw [readIndex_congr hother, hstart]
    rfl
  rw [hsame] at hindex
  have hframe := saveDraft_frame _ hin' (fun _ => hback) hdraft
  have hin' : store.In home between.cwd := hframe.cwd_eq.symm ▸ hin'
  obtain ⟨hread, hfolder'⟩ :=
    saveIndex_reads hin.named ((readIndex_readsBack s store).add hback) hindex
  have hsaved : readDraft between store (Moment.of s).draftId =
      some ((Moment.of s).draft name content) :=
    saveDraft_reads ((Moment.of s).draft name content) hin.named hback hdraft
  refine ⟨rfl, hread, hfolder', ?_⟩
  exact ((saveIndex_quiet hin' _).ends rfl hindex).readDraft hin' hsaved

/-! ## 3. Healing -/

/-- The listed ids whose documents can be read, in their order. -/
def readableIds (s : Session) (store : Store) : List Text :=
  (readIndex s store).order.filter fun id => (readDraft s store id).isSome

/-- The listed ids whose documents cannot be read. -/
def deadIds (s : Session) (store : Store) : List Text :=
  (readIndex s store).order.filter fun id => (readDraft s store id).isNone

/-- Exactly the drafts that can be read are listed, or one that was made where there is none, with
the content that drafts begin with; the others are not mentioned any more; and `doc` is the first
draft of the list. -/
structure Healed (s : Session) (store : Store) (content : Content) (after : Session)
    (doc : Draft) : Prop where
  order : (readIndex after store).order =
    if readableIds s store = [] then [(Moment.of s).draftId] else readableIds s store
  starter : readableIds s store = [] →
    doc = (Moment.of s).draft Store.starterName content
  dropped : ∀ id ∈ deadIds s store, Dictionary.get? (readIndex after store).mentions id = none
  first : ∃ first, (readIndex after store).order.head? = some first ∧
    readDraft after store first = some doc

/-- A healed store lists a draft, the one that was opened. -/
theorem Healed.order_ne_nil (h : Healed s store content after doc) :
    (readIndex after store).order ≠ [] := by
  obtain ⟨first, hfirst, -⟩ := h.first
  exact fun hnil => nomatch (hnil ▸ hfirst : ([] : List Text).head? = some first)

/-- Marking the draft that was opened keeps what was healed. -/
theorem Healed.setActive (h : Healed s store content between doc) (hin : store.In home between.cwd)
    (hfolder : HasFolder between store .index)
    (hactive : Ends (store.setActive id) between (.ok ()) after) :
    Healed s store content after doc := by
  obtain ⟨hindex, -⟩ := setActive_reads hin.named hfolder hactive
  obtain ⟨first, hhead, hread⟩ := h.first
  refine ⟨hindex ▸ h.order, h.starter, hindex ▸ h.dropped, first, hindex ▸ hhead, ?_⟩
  exact ((setActive_quiet hin id).ends rfl hactive).readDraft hin hread

/-- Dropping the ids whose documents cannot be read leaves those whose documents can, in their
order. -/
theorem drop_dead (s : Session) (store : Store) :
    ((readIndex s store).drop (deadIds s store)).order = readableIds s store := by
  rw [Index.drop, readableIds]
  refine List.filter_congr fun id hid => ?_
  -- of the listed ids those are kept that are not dead
  cases hread : readDraft s store id with
  | none => simp [deadIds, hid, hread]
  | some draft => simp [deadIds, hread]

/-- With nothing to drop the index stays as it is, and is not saved. -/
theorem drop_nil (index : Index) : index.drop [] = index := by
  rw [Index.drop, List.foldl_nil]
  simp

/-- Recovery pairs every listed id with what is read of it and takes those without a draft.
These are the dead ids, whatever stands in the documents. -/
theorem dead_candidates (s : Session) (store : Store) :
    ((((readIndex s store).order.map fun id => (id, readDraft s store id)).filter
      fun candidate => candidate.2.isNone).map (·.1)) = deadIds s store := by
  rw [List.filter_map, List.map_map, deadIds]
  exact List.map_id _

/-- The first of these pairs that has a draft is that of the first readable id. So which draft
recovery opens can be said by the ids alone. -/
theorem first_candidate (s : Session) (store : Store) :
    ((readIndex s store).order.map fun id => (id, readDraft s store id)).findSome? (·.2) =
      (readableIds s store).head?.bind (readDraft s store) := by
  rw [readableIds]
  induction (readIndex s store).order with
  | nil => rfl
  | cons id ids ih =>
    rw [List.map_cons, List.findSome?_cons, List.filter_cons]
    cases hread : readDraft s store id with
    | none => simpa [hread] using ih
    | some draft => simp [hread]

/-- What recovery ends with once the dead entries are dropped. -/
theorem found_heals {result : Except StoreError Draft} (hin : store.In home s.cwd)
    (hclock : s.now.Proper) (hfresh : (Moment.of s).draftId ∉ deadIds s store)
    (hquiet : Quiet home s between) (hfolder : HasFolder between store .index)
    (hindex : readIndex between store = (readIndex s store).drop (deadIds s store))
    (hwritten : Written result)
    (h : Ends (match (readableIds s store).head?.bind (readDraft s store) with
      | some draft => return draft
      | none => store.insertNew Store.starterName store.defaults) between result after) :
    ∃ doc, result = .ok doc ∧ HasFolder after store .index ∧
      Healed s store store.defaults after doc := by
  have horder : (readIndex between store).order = readableIds s store := by
    rw [hindex, drop_dead]
  have hgone : ∀ id ∈ deadIds s store, Dictionary.get? (readIndex between store).mentions id = none := by
    intro id hid
    rw [hindex, Index.drop, Dictionary.get?_foldl_erase, if_pos hid]
  cases hreadable : readableIds s store with
  | nil =>
    -- no document can be read, so that a draft is made
    rw [hreadable] at h
    have hmoment : Moment.of between = Moment.of s := by rw [hquiet.same]; rfl
    have hclock' : between.now.Proper := by rw [hquiet.same]; exact hclock
    have hin' : store.In home between.cwd := ((chains_quiet home).cwd hquiet).symm ▸ hin
    obtain ⟨rfl, hread, hfolder', hdraft⟩ :=
      insertNew_reads hin' hclock' hfolder trim_starterName hwritten h
    rw [hmoment] at hread hdraft ⊢
    have hordered : (readIndex after store).order = [(Moment.of s).draftId] := by
      rw [hread, Index.add, horder, hreadable]
      rfl
    refine ⟨_, rfl, hfolder', ?_, fun _ => rfl, fun id hid => ?_, _, ?_, hdraft⟩
    · rw [if_pos hreadable, hordered]
    · have hne : id ≠ (Moment.of s).draftId := fun heq => hfresh (heq ▸ hid)
      have hother : Dictionary.get? (readIndex after store).mentions id =
          Dictionary.get? (readIndex between store).mentions id := by
        rw [hread]
        exact Dictionary.get?_insert_of_ne hne _ _
      rw [hother, hgone id hid]
    · rw [hordered]
      rfl
  | cons first rest =>
    rw [hreadable] at h
    have hmem : first ∈ readableIds s store := by
      rw [hreadable]
      exact List.mem_cons_self
    obtain ⟨doc, hdoc⟩ := Option.isSome_iff_exists.1 (List.mem_filter.1 hmem).2
    simp only [List.head?_cons, Option.bind_some, hdoc] at h
    obtain ⟨rfl, rfl⟩ := Task.ends_pure.1 h
    have hne : readableIds s store ≠ [] := by simp [hreadable]
    refine ⟨doc, rfl, hfolder, ?_, fun hnil => absurd hnil hne, hgone, first, ?_,
      hquiet.readDraft hin hdoc⟩
    · rw [if_neg hne, horder]
    · rw [horder, hreadable]
      rfl

/-- **Recovering heals.** -/
theorem recover_heals {result : Except StoreError Draft} (hin : store.In home s.cwd)
    (hclock : s.now.Proper) (hfresh : (Moment.of s).draftId ∉ deadIds s store)
    (hfolder : HasFolder s store .index) (hwritten : Written result)
    (h : Ends store.recover s result after) :
    ∃ doc, result = .ok doc ∧ HasFolder after store .index ∧
      Healed s store store.defaults after doc := by
  unfold Store.recover at h
  have h := Task.ends_lift_bind.1 (ends_index_bind.1 h)
  rw [candidates_run] at h
  simp only [dead_candidates, first_candidate] at h
  split at h
  -- some of the listed drafts cannot be read: they are dropped first, and the index is saved
  · obtain ⟨between, hindex, h⟩ := ends_write_bind hwritten h
    obtain ⟨hread, hfolder'⟩ :=
      saveIndex_reads hin.named ((readIndex_readsBack s store).drop _) hindex
    exact found_heals hin hclock hfresh ((saveIndex_quiet hin _).ends rfl hindex) hfolder' hread
      hwritten h
  next hdead =>
    -- all of them can be read, so that the index is what dropping them would leave
    have hnone : deadIds s store = [] := by simpa using hdead
    have hread : readIndex s store = (readIndex s store).drop (deadIds s store) := by
      rw [hnone, drop_nil]
    exact found_heals hin hclock hfresh ((chains_quiet home).refl s) hfolder hread hwritten h

/-- **Opening a draft** that cannot be read heals; one that can be is only marked. -/
theorem load_heals {result : Except StoreError Draft} (hin : store.In home s.cwd)
    (hclock : s.now.Proper) (hfresh : (Moment.of s).draftId ∉ deadIds s store)
    (horder : (readIndex s store).order ≠ []) (hwritten : Written result)
    (h : Ends (store.load id) s result after) :
    ∃ doc, result = .ok doc ∧ (store.activeId.run after).1 = some doc.id ∧
      (readIndex after store).order ≠ [] ∧
      ((readDraft s store id = some doc ∧ Ends (store.setActive doc.id) s (.ok ()) after) ∨
        (readDraft s store id = none ∧ Healed s store store.defaults after doc)) := by
  have hfolder := hasFolder_of_hasEntry (hasEntry_of_order horder)
  -- what is done last is the same in both cases
  have hmarked : ∀ {between : Session} {doc : Draft}, HasFolder between store .index →
      (readIndex between store).order ≠ [] →
      Ends (do store.setActive doc.id; return doc) between result after →
      Ends (store.setActive doc.id) between (.ok ()) after ∧ result = .ok doc ∧
        (store.activeId.run after).1 = some doc.id ∧
        (readIndex after store).order ≠ [] := by
    intro between doc hfolder horder h
    obtain ⟨_, hactive, h⟩ := ends_write_bind hwritten h
    obtain ⟨rfl, rfl⟩ := Task.ends_pure.1 h
    obtain ⟨hindex, hread⟩ := setActive_reads hin.named hfolder hactive
    rw [← hindex] at horder
    obtain ⟨first, rest, hlist⟩ := List.exists_cons_of_ne_nil horder
    have hhead : (readIndex after store).order.head? = some first := by
      rw [hlist]
      rfl
    refine ⟨hactive, rfl, ?_, horder⟩
    rw [activeId_eq hhead, hread]
  unfold Store.load at h
  have h := ends_get_bind.1 h
  cases hread : readDraft s store id with
  | some doc =>
    simp only [hread, pure_bind] at h
    obtain ⟨hactive, hresult, hid, horder⟩ := hmarked hfolder horder h
    exact ⟨doc, hresult, hid, horder, .inl ⟨rfl, hactive⟩⟩
  | none =>
    simp only [hread] at h
    rcases Task.ends_bind.1 h with ⟨problem, hrecover, rfl⟩ | ⟨doc, between, hrecover, h⟩
    · obtain ⟨_, hresult, -⟩ := recover_heals hin hclock hfresh hfolder hwritten.error hrecover
      cases hresult
    · have hfound : Written (.ok doc : Except StoreError Draft) := trivial
      obtain ⟨_, hresult, hfolder, hhealed⟩ := recover_heals hin hclock hfresh hfolder hfound hrecover
      obtain rfl := Except.ok.inj hresult
      have hcwd := ((recover_frame hin).ends rfl hrecover).cwd_eq
      obtain ⟨hactive, hresult, hid, horder⟩ := hmarked hfolder hhealed.order_ne_nil h
      exact ⟨doc, hresult, hid, horder, .inr ⟨rfl, hhealed.setActive (hcwd.symm ▸ hin) hfolder hactive⟩⟩

/-! ## 4. Opening a store -/

/-- The draft that a store makes where there is none. -/
def starterOf (s : Session) (store : Store) : Draft :=
  (Moment.of s).draft Store.starterName store.defaults

/-- The files behind the preparing of a store whose index lists no drafts. -/
structure Prepared (s : Session) (store : Store) (after : Session) : Prop where
  healed : Healed s store store.defaults after (starterOf s store)
  active : (store.activeId.run after).1 = some (starterOf s store).id
  cwd : after.cwd = s.cwd
  now : after.now = s.now

/-- Making the first draft and marking it. Between `s` and this at most an empty index was
written. -/
theorem starter_heals {result : Except StoreError Unit} (hin : store.In home s.cwd)
    (hclock : s.now.Proper) (hquiet : Quiet home s between) (hfolder : HasFolder between store .index)
    (hsame : readIndex between store = readIndex s store) (horder : (readIndex s store).order = [])
    (hwritten : Written result)
    (h : Ends (do
      let starter ← store.insertNew Store.starterName store.defaults
      store.setActive starter.id) between result after) :
    result = .ok () ∧ Prepared s store after := by
  have hreadable : readableIds s store = [] := by rw [readableIds, horder, List.filter_nil]
  have hdead : deadIds s store = [] := by rw [deadIds, horder, List.filter_nil]
  have hindex : readIndex between store = (readIndex s store).drop (deadIds s store) := by
    rw [hdead, drop_nil, hsame]
  -- it is what recovery does where no draft is left
  have hmade : ∀ {outcome : Except StoreError Draft} {made : Session}, Written outcome →
      Ends (store.insertNew Store.starterName store.defaults) between outcome made →
      ∃ doc, outcome = .ok doc ∧ HasFolder made store .index ∧
        Healed s store store.defaults made doc := by
    intro outcome made houtcome hinsert
    have hfresh : (Moment.of s).draftId ∉ deadIds s store := by simp [hdead]
    refine found_heals hin hclock hfresh hquiet hfolder hindex houtcome ?_
    rw [hreadable]
    exact hinsert
  rcases Task.ends_bind.1 h with ⟨problem, hinsert, rfl⟩ | ⟨doc, made, hinsert, hactive⟩
  · obtain ⟨_, hresult, -⟩ := hmade hwritten.error hinsert
    cases hresult
  · have hok : Written (.ok doc : Except StoreError Draft) := trivial
    obtain ⟨_, hresult, hfolder', hhealed⟩ := hmade hok hinsert
    obtain rfl := Except.ok.inj hresult
    obtain rfl : doc = starterOf s store := hhealed.starter hreadable
    have hcwd := (chains_quiet home).cwd hquiet
    have hframe := (insertNew_frame (hcwd.symm ▸ hin) _ _).ends rfl hinsert
    have hin' : store.In home made.cwd := (hframe.cwd_eq.trans hcwd).symm ▸ hin
    obtain rfl := ends_write hwritten hactive
    have hmarked := (setActive_quiet hin' _).ends rfl hactive
    have hhealed' := hhealed.setActive hin' hfolder' hactive
    obtain ⟨first, hhead, -⟩ := hhealed'.first
    refine ⟨rfl, hhealed', ?_, ?_, ?_⟩
    · rw [activeId_eq hhead, (setActive_reads hin.named hfolder' hactive).2]
    · rw [(chains_quiet home).cwd hmarked, hframe.cwd_eq, hcwd]
    · rw [hmarked.same]
      exact hframe.now_eq.trans (by rw [hquiet.same])

/-- **Preparing a store** whose index lists no drafts heals; another one is left as it is. A
missing index counts as one that lists none: it is written empty first, and what is read is
the same as before. -/
theorem prepare_heals {result : Except StoreError Unit} (hin : store.In home s.cwd)
    (hclock : s.now.Proper) (hwritten : Written result) (h : Ends store.prepare s result after) :
    result = .ok () ∧ (((readIndex s store).order ≠ [] ∧ after = s) ∨
      ((readIndex s store).order = [] ∧ Prepared s store after)) := by
  unfold Store.prepare at h
  have h := Task.ends_lift_bind.1 h
  cases hentry : s.disk.hasEntry s.cwd store.indexPath with
  | false =>
    have hmissing : (Files.hasEntry store.indexPath).run s = (false, s) := by
      rw [← hentry]
      rfl
    simp only [hmissing, Bool.not_false, if_true] at h
    obtain ⟨between, hindex, h⟩ := ends_write_bind hwritten h
    obtain ⟨hread, hfolder⟩ := saveIndex_reads hin.named .empty hindex
    -- the empty index that was written is what was read before as well
    have hsame : readIndex between store = readIndex s store := by
      rw [hread, readIndex_of_missing hentry]
    have horder : (readIndex s store).order = [] := by
      rw [readIndex_of_missing hentry]
      rfl
    have h := ends_index_bind.1 h
    rw [hsame, if_pos (List.isEmpty_iff.2 horder)] at h
    obtain ⟨hresult, hprepared⟩ := starter_heals hin hclock
      ((saveIndex_quiet hin _).ends rfl hindex) hfolder hsame horder hwritten h
    exact ⟨hresult, .inr ⟨horder, hprepared⟩⟩
  | true =>
    have hthere : (Files.hasEntry store.indexPath).run s = (true, s) := by
      rw [← hentry]
      rfl
    simp only [hthere, Bool.not_true, Bool.false_eq_true, if_false] at h
    have h := ends_index_bind.1 h
    -- an index that is there may list nothing
    by_cases horder : (readIndex s store).order = []
    · rw [if_pos (List.isEmpty_iff.2 horder)] at h
      obtain ⟨hresult, hprepared⟩ := starter_heals hin hclock ((chains_quiet home).refl s)
        (hasFolder_of_hasEntry hentry) rfl horder hwritten h
      exact ⟨hresult, .inr ⟨horder, hprepared⟩⟩
    · rw [if_neg fun hempty => horder (List.isEmpty_iff.1 hempty)] at h
      obtain ⟨hresult, hafter⟩ := Task.ends_pure.1 h
      exact ⟨hresult, .inl ⟨horder, hafter⟩⟩

/-- Where drafts are listed, opening the last one is opening the one whose id is stored. -/
theorem loadActive_eq {result : Except StoreError Draft} (horder : (readIndex s store).order ≠ [])
    (h : Ends store.loadActive s result after) :
    ∃ id, (store.activeId.run s).1 = some id ∧ Ends (store.load id) s result after := by
  obtain ⟨first, rest, hlist⟩ := List.exists_cons_of_ne_nil horder
  have hactive : store.activeId.run s = (some (readActive first s store), s) :=
    activeId_eq (by rw [hlist]; rfl)
  have h := Task.ends_lift_bind.1 h
  rw [hactive] at h ⊢
  exact ⟨_, rfl, h⟩

/-- The draft that a store has just made is the one that is opened. It is marked and can be
read, so there is nothing to recover. -/
theorem Prepared.loadActive {result : Except StoreError Draft} (h : Prepared s store between)
    (hin : store.In home s.cwd) (hclock : s.now.Proper) (horder : (readIndex s store).order = [])
    (hwritten : Written result) (hends : Ends store.loadActive between result after) :
    result = .ok (starterOf s store) ∧
      (store.activeId.run after).1 = some (starterOf s store).id ∧
      Healed s store store.defaults after (starterOf s store) := by
  have hin' : store.In home between.cwd := h.cwd.symm ▸ hin
  have hlist : (readIndex between store).order = [(starterOf s store).id] := by
    rw [h.healed.order, readableIds, horder, List.filter_nil, if_pos rfl]
    rfl
  obtain ⟨first, hhead, hread⟩ := h.healed.first
  rw [hlist] at hhead
  obtain rfl := Option.some.inj hhead
  -- the only entry can be read
  have hdead : deadIds between store = [] := by
    rw [deadIds, hlist, List.filter_singleton, hread]
    rfl
  have hfresh : (Moment.of between).draftId ∉ deadIds between store := by simp [hdead]
  obtain ⟨id, hid, hends⟩ := loadActive_eq h.healed.order_ne_nil hends
  obtain rfl := Option.some.inj (hid.symm.trans h.active)
  obtain ⟨doc, hresult, hactive, -, ⟨hdoc, hmark⟩ | ⟨hnone, -⟩⟩ :=
    load_heals hin' (h.now.symm ▸ hclock) hfresh h.healed.order_ne_nil hwritten hends
  · obtain rfl := Option.some.inj (hdoc.symm.trans hread)
    have hfolder := hasFolder_of_hasEntry (hasEntry_of_order h.healed.order_ne_nil)
    exact ⟨hresult, hactive, h.healed.setActive hin' hfolder hmark⟩
  · cases hnone.symm.trans hread

/-- Opening the drafts of a preset, and of them the one that was opened last. -/
def openLast (root : Path) (preset : Preset) : Task StoreError Draft := do
  let store ← Store.openFor root preset
  store.loadActive

/-- The draft that was opened last cannot be read. -/
def LastLost (s : Session) (store : Store) : Prop :=
  ∀ id ∈ (store.activeId.run s).1, readDraft s store id = none

instance (s : Session) (store : Store) : Decidable (LastLost s store) :=
  inferInstanceAs (Decidable (∀ id ∈ (store.activeId.run s).1, readDraft s store id = none))

/-- **Damage heals.** Whatever the directory of a store holds: if the files that are written can
be written, and the id that is made is none of the listed ones, then opening the store and the
draft that was opened last gives a draft. It is marked as opened last, and drafts are listed.
Was the draft that was opened last not to be read, then exactly those are listed that can be, or,
if there are none, a new one: it has the title and the text that the preset gives to new drafts,
and a file name that is made of the id of the preset. -/
theorem openLast_heals {root : Path} {preset : Preset} {result : Except StoreError Draft}
    (hclock : s.now.Proper)
    (hfresh : (Moment.of s).draftId ∉ (readIndex s (Store.ofPreset root preset)).order)
    (hwritten : Written result) (h : Ends (openLast root preset) s result after) :
    ∃ doc, result = .ok doc ∧
      ((Store.ofPreset root preset).activeId.run after).1 = some doc.id ∧
      (readIndex after (Store.ofPreset root preset)).order ≠ [] ∧
      (LastLost s (Store.ofPreset root preset) →
        Healed s (Store.ofPreset root preset)
          ⟨preset.defaultTitle, preset.id ++ "-page.html", preset.defaultContent⟩ after doc) := by
  have hin := in_ofPreset (rfl : Disk.target s.cwd root = _) preset
  have hprepare : ∀ {outcome : Except StoreError Unit} {between : Session}, Written outcome →
      Ends (Store.ofPreset root preset).prepare s outcome between → _ :=
    fun houtcome hends => prepare_heals hin hclock houtcome hends
  rcases Task.ends_bind.1 h with ⟨problem, hopen, rfl⟩ | ⟨store, between, hopen, hload⟩
  · rcases Task.ends_bind.1 hopen with ⟨_, hends, hproblem⟩ | ⟨_, _, -, hpure⟩
    · obtain rfl := Except.error.inj hproblem
      cases (hprepare hwritten.error hends).1
    · cases (Task.ends_pure.1 hpure).1
  obtain rfl := openFor_store hopen
  obtain ⟨_, between', hends, hpure⟩ := Task.ends_bind_ok.1 hopen
  obtain rfl := (Task.ends_pure.1 hpure).2
  have hok : Written (.ok () : Except StoreError Unit) := trivial
  rcases (hprepare hok hends).2 with ⟨horder, rfl⟩ | ⟨horder, hprepared⟩
  · -- drafts were listed
    obtain ⟨id, hid, hload⟩ := loadActive_eq horder hload
    have hdead : (Moment.of between).draftId ∉ deadIds between (Store.ofPreset root preset) :=
      fun hmem => hfresh (List.mem_of_mem_filter hmem)
    obtain ⟨doc, hresult, hactive, horder, ⟨hread, -⟩ | ⟨-, hhealed⟩⟩ :=
      load_heals hin hclock hdead horder hwritten hload
    · refine ⟨doc, hresult, hactive, horder, fun hlost => ?_⟩
      cases (hlost id hid).symm.trans hread
    · exact ⟨doc, hresult, hactive, horder, fun _ => hhealed⟩
  · -- there is only the draft that was just made
    obtain ⟨hresult, hactive, hhealed⟩ := hprepared.loadActive hin hclock horder hwritten hload
    exact ⟨_, hresult, hactive, hhealed.order_ne_nil, fun _ => hhealed⟩

/-- A session on a disk with these directories and texts. -/
def sessionOn (directories : List Location) (files : List (Location × Text)) : Session :=
  { emptySession with
    disk := ⟨directories.map (·, .directory) ++ files.map fun file => (file.1, .file (.text file.2))⟩ }

/-- A session with a damaged directory: of the three listed drafts one is gone and one is half
written, the one that was opened last is not listed and half written as well, and there is a
document that no index knows of. -/
def damagedSession : Session :=
  let kept : Draft := ⟨"kept", "Kept", ⟨[], [], "Text"⟩, ⟨0, 0, 0⟩, ⟨0, 0, 0⟩⟩
  let index : Index := ⟨["gone", "half", "kept"],
    [("gone", ⟨"Gone", ⟨0, 0, 0⟩⟩), ("half", ⟨"Half", ⟨0, 0, 0⟩⟩), ("kept", ⟨"Kept", ⟨0, 0, 0⟩⟩)]⟩
  sessionOn [["data"], ["data", "bare"], ["data", "bare", "drafts"]]
    [(["data", "bare", "index.json"], index.toJson.pretty),
      (["data", "bare", "active.json"], (Json.string "torn").pretty),
      (["data", "bare", "drafts", "half.json"], "\x7b\"id\": \"half"),
      (["data", "bare", "drafts", "torn.json"], "\x7b\"id\": \"torn"),
      (["data", "bare", "drafts", "kept.json"], kept.toJson.pretty),
      (["data", "bare", "drafts", "stray.json"], { kept with id := "stray" }.toJson.pretty)]

/-- A preset that says what its drafts begin with. -/
def titledPreset : Preset := { barePreset with title := some "Title", content := some "# New" }

/-- A session in which all that is left is an index: of the two drafts in it one is gone and one is
half written. -/
def ruinedSession : Session :=
  let index : Index := ⟨["gone", "half"], [("gone", ⟨"Gone", ⟨0, 0, 0⟩⟩), ("half", ⟨"Half", ⟨0, 0, 0⟩⟩)]⟩
  sessionOn [["data"], ["data", "bare"], ["data", "bare", "drafts"]]
    [(["data", "bare", "index.json"], index.toJson.pretty),
      (["data", "bare", "drafts", "half.json"], "\x7b\"id\": \"half")]

/-- Of the damaged directory the one draft is left that can be read; where none can be read
there is a new one, which begins as the preset says. -/
theorem openLast_heals_damaged :
    (LastLost damagedSession (Store.ofPreset "/data" barePreset) ∧
      readableIds damagedSession (Store.ofPreset "/data" barePreset) = ["kept"] ∧
      ∃ doc, Healed damagedSession (Store.ofPreset "/data" barePreset)
        ⟨barePreset.defaultTitle, barePreset.id ++ "-page.html", barePreset.defaultContent⟩
        ((openLast "/data" barePreset).run.run damagedSession).2 doc) ∧
    LastLost ruinedSession (Store.ofPreset "/data" titledPreset) ∧
      readableIds ruinedSession (Store.ofPreset "/data" titledPreset) = [] ∧
      ∃ doc, ((openLast "/data" titledPreset).run.run ruinedSession).1 = .ok doc ∧
        doc.content = ⟨"Title", "bare-page.html", "# New"⟩ ∧
        (readIndex ((openLast "/data" titledPreset).run.run ruinedSession).2
          (Store.ofPreset "/data" titledPreset)).order = [doc.id] := by
  have hlost : LastLost damagedSession (Store.ofPreset "/data" barePreset) ∧
      LastLost ruinedSession (Store.ofPreset "/data" titledPreset) := by decide +kernel
  have hclock : damagedSession.now.Proper ∧ ruinedSession.now.Proper := by decide +kernel
  have hfresh : (Moment.of damagedSession).draftId ∉
        (readIndex damagedSession (Store.ofPreset "/data" barePreset)).order ∧
      (Moment.of ruinedSession).draftId ∉
        (readIndex ruinedSession (Store.ofPreset "/data" titledPreset)).order := by decide +kernel
  have hreadable : readableIds damagedSession (Store.ofPreset "/data" barePreset) = ["kept"] ∧
      readableIds ruinedSession (Store.ofPreset "/data" titledPreset) = [] := by decide +kernel
  have hsome : ((openLast "/data" barePreset).run.run damagedSession).1.toOption.isSome = true ∧
      ((openLast "/data" titledPreset).run.run ruinedSession).1.toOption.isSome = true := by
    decide +kernel
  constructor
  · obtain ⟨doc, -, -, -, hhealed⟩ :=
      openLast_heals hclock.1 hfresh.1 (by trivial) (Task.ends_toOption hsome.1)
    exact ⟨hlost.1, hreadable.1, doc, hhealed hlost.1⟩
  · have hends := Task.ends_toOption hsome.2
    obtain ⟨doc, hdoc, -, -, hhealed⟩ := openLast_heals hclock.2 hfresh.2 (by trivial) hends
    have hhealed := hhealed hlost.2
    have horder := hhealed.order
    rw [if_pos hreadable.2] at horder
    -- no draft was readable, so this is the starter draft of the preset
    have hstarter := hhealed.starter hreadable.2
    refine ⟨hlost.2, hreadable.2, doc, (congrArg Prod.fst hends).trans hdoc, ?_, ?_⟩
    · rw [hstarter]
      decide +kernel
    · rw [horder, hstarter]
      rfl

end MarkupDesk.Drafts
