/-
`Proofs/Drafts/Failure.lean` -- operations on drafts that fail.

Nothing is taken back. An operation makes its updates in a fixed order (`Call.updates`), and
where one of them fails, those in front of it stay made and those behind it are not tried. The
order is such that a later look at the store heals what is left: a document is written before
the index lists it and is removed before the index drops it, and which draft was opened last is
said at the very end. So an operation that fails never changes that, and what makes a single
update changes nothing.
-/
import MarkupDesk.Proofs.Drafts.Update

set_option autoImplicit false

namespace MarkupDesk.Drafts

open Files (FileError Location)
open MarkupDesk.Task (Ends)

variable {home : Location} {s after : Session} {root : Path} {preset : Preset} {store : Store}
  {id name : Text} {content : Content} {moment : Moment} {r : Reading} {call : Call}

/-! ## 1. Stores in order -/

/-- The index lists drafts, each of them once, and all of them can be read. -/
structure Intact (s : Session) (store : Store) : Prop where
  listed : (readIndex s store).order ≠ []
  distinct : (readIndex s store).order.Nodup
  readable : ∀ id ∈ (readIndex s store).order, (readDraft s store id).isSome = true

instance (s : Session) (store : Store) : Decidable (Intact s store) :=
  decidable_of_iff ((readIndex s store).order ≠ [] ∧ (readIndex s store).order.Nodup ∧
      ∀ id ∈ (readIndex s store).order, (readDraft s store id).isSome = true)
    ⟨fun ⟨listed, distinct, readable⟩ => ⟨listed, distinct, readable⟩,
      fun h => ⟨h.listed, h.distinct, h.readable⟩⟩

/-- A store in order has a first draft that can be read. Recovery finds it and stops there, so
it has nothing to make and nothing to drop. -/
theorem Intact.exists_first (h : Intact s store) :
    ∃ first rest draft, (readIndex s store).order = first :: rest ∧
      readDraft s store first = some draft := by
  obtain ⟨first, rest, hlist⟩ := List.exists_cons_of_ne_nil h.listed
  have hmem : first ∈ (readIndex s store).order := by
    rw [hlist]
    exact List.mem_cons_self
  obtain ⟨draft, hdraft⟩ := Option.isSome_iff_exists.1 (h.readable first hmem)
  exact ⟨first, rest, draft, hlist, hdraft⟩

/-- A store in order has its directories: the index was found in the one, and a document in
the other. -/
theorem Intact.folders (h : Intact s store) (hin : store.In home s.cwd) : HasFolders s store := by
  obtain ⟨first, _, draft, -, hread⟩ := h.exists_first
  exact ⟨hasFolder_of_hasEntry (hasEntry_of_order h.listed), ((readDraft_eq_some_iff hin).1 hread).1⟩

/-! ## 2. The updates of a call -/

namespace Reading

/-- The draft that is opened under an id; the first one of the list stands in for a missing one. -/
def opened? (r : Reading) (id : Text) : Option Draft :=
  (r.draft id).or (r.index.order.findSome? r.draft)

/-- The id of the draft that was opened last, where drafts are listed. -/
def last? (r : Reading) : Option Text := r.index.order.head?.map r.active

/-- Making a draft and opening it. -/
def insertion (r : Reading) (moment : Moment) (name : Text) (content : Content) :
    Except StoreError (List Update) :=
  if (Text.trim name).isEmpty then .error .emptyName
  else
    .ok [.document (moment.draft name content), .index (r.index.add (moment.draft name content)),
      .active moment.draftId]

/-- Opening a draft. -/
def opening (r : Reading) (id : Text) : List Update :=
  (r.opened? id).toList.map fun draft => .active draft.id

/-- Saving a draft, if it is there. -/
def resaving (r : Reading) (moment : Moment) (id : Text) (content : Content) : List Update :=
  match r.draft id with
  | none => []
  | some draft =>
    [.document (draft.resaved content moment.now),
      .index (r.index.touch id (draft.resaved content moment.now))]

/-- Deleting a draft. -/
def deletion (r : Reading) (id : Text) : Except StoreError (List Update) :=
  if r.index.order.length ≤ 1 then .error .lastDraft
  else if !r.index.order.contains id then .error (.notFound id)
  else
    .ok ([.removal id, .index (r.index.drop [id])] ++
      (r.index.drop [id]).order.head?.toList.map .active)

end Reading

/-- What a call on a store in order updates, or why it does nothing. -/
def Call.updates (moment : Moment) (r : Reading) : Call → Except StoreError (List Update)
  | openStore => .ok []
  | create store name => r.insertion moment name store.defaults
  | saveAs _ name content => r.insertion moment name content
  | load _ id => .ok (r.opening id)
  | loadActive _ => .ok (r.opening (r.last?.getD []))
  | autosave _ id content => .ok (r.resaving moment id content)
  | delete _ id => r.deletion id

/-- A task has kept to a plan: it has made progress with the updates, or has done nothing for the
reason that the plan gives. -/
def Follows {α : Type} (s : Session) (store : Store) (plan : Except StoreError (List Update))
    (result : Except StoreError α) (after : Session) : Prop :=
  match plan with
  | .error problem => result = .error problem ∧ reading after store = reading s store
  | .ok updates => Progress store (reading s store) updates result (reading after store)

/-- What is computed with the result of an operation is no part of its plan. -/
theorem Follows.map {α β : Type} {plan : Except StoreError (List Update)}
    {result : Except StoreError α} (h : Follows s store plan result after) (f : α → β) :
    Follows s store plan (result.map f) after := by
  cases plan with
  | error problem =>
    obtain ⟨rfl, hread⟩ := h
    exact ⟨rfl, hread⟩
  | ok updates => exact Progress.map f h

/-! ## 3. Each operation keeps to its plan -/

/-- Making a draft writes its document and then the index. What else is known of the draft
is known before anything is written: its id, its times and its content are those of the
moment. -/
theorem insertNew_advances {result : Except StoreError Draft} (hin : store.In home s.cwd)
    (hfolders : HasFolders s store) (hclock : s.now.Proper)
    (hname : ¬ (Text.trim name).isEmpty = true)
    (h : Ends (store.insertNew name content) s result after) :
    Advances s store [.document ((Moment.of s).draft name content),
        .index ((readIndex s store).add ((Moment.of s).draft name content))] result after ∧
      ∀ draft, result = .ok draft → draft = (Moment.of s).draft name content := by
  have hback : ((Moment.of s).draft name content).ReadsBack := ⟨hclock.readsBack, hclock.readsBack⟩
  have h := ends_insertNew hname h
  obtain ⟨start, hstart⟩ : ∃ start : Session, start = { s with nextToken := s.nextToken + 1 } :=
    ⟨_, rfl⟩
  rw [← hstart] at h
  -- taking a token is no update
  have hsame : reading start store = reading s store := by rw [hstart]; rfl
  have hcwd : start.cwd = s.cwd := by rw [hstart]
  have hfolders' : HasFolders start store := by rw [hstart]; exact ⟨hfolders.top, hfolders.drafts⟩
  refine ⟨?_, fun draft hdraft => ?_⟩
  · have hadvances : Advances start store ([.document ((Moment.of s).draft name content)] ++
        ([.index ((readIndex s store).add ((Moment.of s).draft name content))] ++ [])) result
        after := by
      refine advances_bind (fun outcome between hends => ?_) (fun _ between _ hstep hread h => ?_) h
      · exact Update.advances (.document _) (hcwd.symm ▸ hin) hfolders' hback hends
      · have hindex : readIndex between store = readIndex s store := by
          rw [hsame] at hread
          exact congrArg Reading.index hread
        have h := ends_index_bind.1 h
        rw [hindex] at h
        refine advances_bind (fun outcome saved hends => ?_) (fun _ saved _ hstep _ h => ?_) h
        · have hin' : store.In home between.cwd := (hstep.cwd.trans hcwd).symm ▸ hin
          exact Update.advances (.index _) hin' hstep.folders
            ((readIndex_readsBack s store).add hback) hends
        · exact advances_pure hstep.folders h
    exact ⟨⟨hadvances.cwd.trans hcwd, hadvances.folders⟩, hsame ▸ hadvances.progress⟩
  · subst hdraft
    obtain ⟨_, _, -, h⟩ := Task.ends_bind_ok.1 h
    obtain ⟨_, _, -, h⟩ := Task.ends_bind_ok.1 (ends_index_bind.1 h)
    exact Except.ok.inj (Task.ends_pure.1 h).1

/-- **Making a draft and opening it.** A name of blanks is refused before anything is looked
at, and so is the plan. -/
theorem saveAs_follows {result : Except StoreError Draft} (hin : store.In home s.cwd)
    (hfolders : HasFolders s store) (hclock : s.now.Proper)
    (h : Ends (store.saveAs name content) s result after) :
    Follows s store ((reading s store).insertion (Moment.of s) name content) result after := by
  unfold Reading.insertion
  by_cases hname : (Text.trim name).isEmpty = true
  · rw [if_pos hname]
    rcases Task.ends_bind.1 h with ⟨problem, hinsert, rfl⟩ | ⟨_, _, hinsert, -⟩
    · obtain ⟨hresult, rfl⟩ := insertNew_refused hname hinsert
      exact ⟨by rw [Except.error.inj hresult], rfl⟩
    · cases (insertNew_refused hname hinsert).1
  · rw [if_neg hname]
    -- document, index and mark, in this order
    have hadvances : Advances s store ([.document ((Moment.of s).draft name content),
        .index ((readIndex s store).add ((Moment.of s).draft name content))] ++
        ([.active (Moment.of s).draftId] ++ [])) result after := by
      refine advances_bind (fun outcome between hends => ?_)
        (fun draft between hends hstep _ h => ?_) h
      · exact (insertNew_advances hin hfolders hclock hname hends).1
      · obtain rfl := (insertNew_advances hin hfolders hclock hname hends).2 _ rfl
        have hin' : store.In home between.cwd := hstep.cwd.symm ▸ hin
        refine advances_bind (fun outcome marked hends => ?_) (fun _ marked _ hstep _ h => ?_) h
        · exact Update.advances (.active _) hin' hstep.folders trivial hends
        · exact advances_pure hstep.folders h
    exact hadvances.progress

/-- In a store in order recovery finds the first draft of the list. None of the ids is dead,
so the index is not written. -/
theorem Intact.recover {result : Except StoreError Draft} (hintact : Intact s store)
    (h : Ends store.recover s result after) :
    after = s ∧ ∃ draft, result = .ok draft ∧
      (readIndex s store).order.findSome? (readDraft s store) = some draft := by
  obtain ⟨first, rest, draft, hlist, hread⟩ := hintact.exists_first
  -- a dead id would be one of the list that cannot be read
  have hdead : deadIds s store = [] := by
    refine List.filter_eq_nil_iff.2 fun id hid hnone => ?_
    rw [Option.isNone_iff_eq_none] at hnone
    have hsome := hintact.readable id hid
    rw [hnone] at hsome
    cases hsome
  have hfound : (readIndex s store).order.findSome? (readDraft s store) = some draft := by
    rw [hlist, List.findSome?_cons, hread]
  have hcandidate : ((readIndex s store).order.map fun id =>
      (id, readDraft s store id)).findSome? (·.2) = some draft := by
    rw [List.findSome?_map]
    exact hfound
  unfold Store.recover at h
  have h := Task.ends_lift_bind.1 (ends_index_bind.1 h)
  rw [candidates_run] at h
  simp only [dead_candidates, hdead, hcandidate, List.isEmpty_nil, Bool.not_true,
    Bool.false_eq_true, if_false] at h
  obtain ⟨hresult, hafter⟩ := Task.ends_pure.1 h
  exact ⟨hafter, draft, hresult, hfound⟩

/-- **Opening a draft.** -/
theorem load_follows {result : Except StoreError Draft} (hin : store.In home s.cwd)
    (hintact : Intact s store) (h : Ends (store.load id) s result after) :
    Follows s store (.ok ((reading s store).opening id)) result after := by
  -- whether the draft is found or another one stands in, it is marked and nothing else is done
  obtain ⟨draft, hopened, h⟩ : ∃ draft, (reading s store).opened? id = some draft ∧
      Ends (do store.setActive draft.id; return draft) s result after := by
    unfold Store.load at h
    have h := ends_get_bind.1 h
    unfold Reading.opened?
    change ∃ draft, (readDraft s store id).or
      ((readIndex s store).order.findSome? (readDraft s store)) = some draft ∧ _
    cases hread : readDraft s store id with
    | some draft =>
      simp only [hread, pure_bind] at h
      exact ⟨draft, rfl, h⟩
    | none =>
      simp only [hread] at h
      rcases Task.ends_bind.1 h with ⟨problem, hrecover, -⟩ | ⟨draft, between, hrecover, hmark⟩
      · obtain ⟨-, _, hresult, -⟩ := hintact.recover hrecover
        cases hresult
      · obtain ⟨rfl, _, hresult, hfound⟩ := hintact.recover hrecover
        obtain rfl := Except.ok.inj hresult
        exact ⟨draft, hfound, hmark⟩
  have hadvances : Advances s store ([.active draft.id] ++ []) result after := by
    refine advances_bind (fun outcome marked hends => ?_) (fun _ marked _ hstep _ h => ?_) h
    · exact Update.advances (.active _) hin (hintact.folders hin) trivial hends
    · exact advances_pure hstep.folders h
  unfold Follows Reading.opening
  rw [hopened]
  exact hadvances.progress

/-- **Opening the draft that was opened last.** -/
theorem loadActive_follows {result : Except StoreError Draft} (hin : store.In home s.cwd)
    (hintact : Intact s store) (h : Ends store.loadActive s result after) :
    Follows s store (.ok ((reading s store).opening ((reading s store).last?.getD []))) result
      after := by
  obtain ⟨first, rest, _, hlist, -⟩ := hintact.exists_first
  have hhead : (readIndex s store).order.head? = some first := by rw [hlist]; rfl
  -- the reading says the same about the last draft as the files do
  have hlast : (reading s store).last? = some (readActive first s store) := by
    rw [Reading.last?]
    change (readIndex s store).order.head?.map _ = _
    rw [hhead]
    rfl
  obtain ⟨id, hid, h⟩ := loadActive_eq hintact.listed h
  rw [activeId_eq hhead] at hid
  obtain rfl := Option.some.inj hid
  rw [hlast]
  exact load_follows hin hintact h

/-- **Saving a draft.** A draft that is not there has an empty plan, and then nothing is
written; the answer says so, and that is no failure. -/
theorem autosave_follows {result : Except StoreError (Option Draft)} (hin : store.In home s.cwd)
    (hfolders : HasFolders s store) (hclock : s.now.Proper)
    (h : Ends (store.autosave id content) s result after) :
    Follows s store (.ok ((reading s store).resaving (Moment.of s) id content)) result after := by
  unfold Store.autosave at h
  have h := ends_get_bind.1 h
  unfold Follows Reading.resaving
  have hdraft : (reading s store).draft id = readDraft s store id := rfl
  rw [hdraft]
  cases hread : readDraft s store id with
  | none =>
    rw [hread] at h
    exact (advances_pure hfolders h).progress
  | some draft =>
    rw [hread] at h
    -- the time of creation was read from the file, that of the change is the clock's
    have hback : (draft.resaved content s.now).ReadsBack := by
      obtain ⟨-, -, t, -, hdocument⟩ := (readDraft_eq_some_iff hin).1 hread
      exact ⟨(readsBack_of_readDocument hdocument).1, hclock.readsBack⟩
    have hadvances : Advances s store ([.document (draft.resaved content s.now)] ++
        ([.index ((readIndex s store).touch id (draft.resaved content s.now))] ++ [])) result
        after := by
      refine advances_bind (fun outcome between hends => ?_) (fun _ between _ hstep hread h => ?_)
        (Task.ends_get_bind.1 h)
      · exact Update.advances (.document (draft.resaved content s.now)) hin hfolders
          hback hends
      · have hindex : readIndex between store = readIndex s store := congrArg Reading.index hread
        have h := ends_index_bind.1 h
        rw [hindex] at h
        have hin' : store.In home between.cwd := hstep.cwd.symm ▸ hin
        refine advances_bind (fun outcome saved hends => ?_) (fun _ saved _ hstep _ h => ?_) h
        · exact Update.advances (.index _) hin' hstep.folders
            ((readIndex_readsBack s store).touch id hback) hends
        · exact advances_pure hstep.folders h
    exact hadvances.progress

/-- Where an entry is left, deleting a draft that is listed is three updates in a row, and none of
them panics. -/
theorem deleteListed_eq {index : Index} {next : Text} {rest : List Text}
    (hnext : (index.drop [id]).order = next :: rest) :
    store.deleteListed index id = Task.certain (do
      Task.mapError (.write (store.draftPath id)) (Files.removeIfPresent (store.draftPath id))
      store.saveIndex (index.drop [id])
      store.setActive next
      return next) := by
  unfold Store.deleteListed Store.removeListed
  simp only [Task.certain_bind, bind_assoc, Task.certain_pure, pure_bind, promote_cons hnext]

/-- **Deleting a draft.** A store in order lists every draft once, so behind a deletion that
is not refused there is a first draft, and taking it does not panic. -/
theorem delete_follows {result : Except (Stop StoreError) Text} (hin : store.In home s.cwd)
    (hintact : Intact s store) (h : Ends (store.delete id) s result after) :
    ∃ outcome, result = outcome.mapError .failed ∧
      Follows s store ((reading s store).deletion id) outcome after := by
  unfold Reading.deletion
  change ∃ outcome, _ ∧ Follows s store (if (readIndex s store).order.length ≤ 1 then _ else
    if (!(readIndex s store).order.contains id) = true then _ else _) outcome after
  obtain ⟨hlast, rfl, rfl⟩ | ⟨hmany, hmem, rfl, rfl⟩ | ⟨hmany, hmem, h⟩ := ends_delete h
  · rw [if_pos hlast]
    exact ⟨.error .lastDraft, rfl, rfl, rfl⟩
  · rw [if_neg (Nat.not_le.2 hmany), if_pos (by simpa using hmem)]
    exact ⟨.error (.notFound id), rfl, rfl, rfl⟩
  rw [if_neg (Nat.not_le.2 hmany), if_neg (by simpa using hmem)]
  -- of two ids at least that differ one is left
  obtain ⟨next, rest, hnext⟩ : ∃ next rest, ((readIndex s store).drop [id]).order = next :: rest := by
    refine List.exists_cons_of_ne_nil fun hnil => Nat.not_le.2 hmany ?_
    have hsubset : (readIndex s store).order ⊆ [id] := by
      intro other hother
      have hgone := List.filter_eq_nil_iff.1 hnil other hother
      simpa using hgone
    exact hintact.distinct.length_le_of_subset hsubset
  rw [deleteListed_eq hnext] at h
  obtain ⟨outcome, hends, rfl⟩ := Task.ends_certain.1 h
  have hadvances : Advances s store ([.removal id] ++ ([.index ((readIndex s store).drop [id])] ++
      ([.active next] ++ []))) outcome after := by
    refine advances_bind (fun outcome removed hends => ?_) (fun _ removed _ hstep _ h => ?_) hends
    · exact Update.advances (.removal id) hin (hintact.folders hin) trivial hends
    have hin' : store.In home removed.cwd := hstep.cwd.symm ▸ hin
    refine advances_bind (fun outcome saved hends => ?_) (fun _ saved _ hstep' _ h => ?_) h
    · exact Update.advances (.index _) hin' hstep.folders
        ((readIndex_readsBack s store).drop [id]) hends
    have hin'' : store.In home saved.cwd := hstep'.cwd.symm ▸ hin'
    refine advances_bind (fun outcome marked hends => ?_) (fun _ marked _ hstep _ h => ?_) h
    · exact Update.advances (.active _) hin'' hstep'.folders trivial hends
    · exact advances_pure hstep.folders h
  refine ⟨outcome, rfl, ?_⟩
  change Progress store _ ([.removal id, .index ((readIndex s store).drop [id])] ++
    ((readIndex s store).drop [id]).order.head?.toList.map .active) _ _
  rw [hnext]
  exact hadvances.progress

/-- A store in order is opened without a change: its index is there and lists something, so
neither an index nor a starter draft is made. -/
theorem openFor_follows {result : Except StoreError Store}
    (hintact : Intact s (Store.ofPreset root preset))
    (h : Ends (Store.openFor root preset) s result after) :
    Follows s (Store.ofPreset root preset) (.ok []) result after := by
  have hprepared : ∀ {outcome : Except StoreError Unit} {between : Session},
      Ends (Store.ofPreset root preset).prepare s outcome between → outcome = .ok () ∧ between = s := by
    intro outcome between h
    have hthere : (Files.hasEntry (Store.ofPreset root preset).indexPath).run s = (true, s) := by
      rw [← hasEntry_of_order hintact.listed]
      rfl
    unfold Store.prepare at h
    have h := Task.ends_lift_bind.1 h
    -- the index is there, and it is not empty
    simp only [hthere, Bool.not_true, Bool.false_eq_true, if_false] at h
    have h := ends_index_bind.1 h
    rw [if_neg fun hempty => hintact.listed (List.isEmpty_iff.1 hempty)] at h
    exact Task.ends_pure.1 h
  rcases Task.ends_bind.1 h with ⟨problem, hprepare, -⟩ | ⟨_, between, hprepare, hpure⟩
  · cases (hprepared hprepare).1
  · obtain ⟨-, rfl⟩ := hprepared hprepare
    obtain ⟨rfl, rfl⟩ := Task.ends_pure.1 hpure
    exact .finished _ _

/-! ## 4. Calls that fail -/

/-- A call that does not panic keeps to the plan that its task keeps to. -/
theorem certain_follows {α β : Type} {task : Task StoreError α} {f : α → β}
    {plan : Except StoreError (List Update)} {result : Except (Stop StoreError) β}
    (htask : ∀ outcome, Ends task s outcome after → Follows s store plan outcome after)
    (h : Ends (Task.certain (f <$> task)) s result after) :
    ∃ outcome, result = outcome.mapError .failed ∧ Follows s store plan outcome after := by
  obtain ⟨outcome, houtcome, rfl⟩ := Task.ends_certain_map.1 h
  exact ⟨outcome.map f, rfl, (htask outcome houtcome).map f⟩

/-- **Every call keeps to its plan**, whether it ends well or not, and none panics. A store in
order is what every call assumes and, where nothing fails, leaves. -/
theorem call_follows {result : Except (Stop StoreError) Answer}
    (hintact : Intact s (Store.ofPreset root preset)) (hclock : s.now.Proper)
    (hstore : ∀ store ∈ call.store?, store = Store.ofPreset root preset)
    (h : Ends (call.run root preset) s result after) :
    ∃ outcome, result = outcome.mapError .failed ∧ Follows s (Store.ofPreset root preset)
      (call.updates (Moment.of s) (reading s (Store.ofPreset root preset))) outcome after := by
  have hin := in_ofPreset (rfl : Files.Disk.target s.cwd root = _) preset
  have hfolders := hintact.folders hin
  cases call with
  | openStore => exact certain_follows (fun _ => openFor_follows hintact) h
  | create store name =>
    obtain rfl := hstore store rfl
    exact certain_follows (fun _ => saveAs_follows hin hfolders hclock) h
  | saveAs store name content =>
    obtain rfl := hstore store rfl
    exact certain_follows (fun _ => saveAs_follows hin hfolders hclock) h
  | load store id =>
    obtain rfl := hstore store rfl
    exact certain_follows (fun _ => load_follows hin hintact) h
  | loadActive store =>
    obtain rfl := hstore store rfl
    exact certain_follows (fun _ => loadActive_follows hin hintact) h
  | autosave store id content =>
    obtain rfl := hstore store rfl
    exact certain_follows (fun _ => autosave_follows hin hfolders hclock) h
  -- deleting is the one call that may panic elsewhere
  | delete store id =>
    obtain rfl := hstore store rfl
    obtain ⟨_, hdelete, rfl⟩ := Task.ends_map.1 h
    obtain ⟨outcome, rfl, hfollows⟩ := delete_follows hin hintact hdelete
    exact ⟨outcome.map .next, Task.map_mapError Stop.failed _ outcome, hfollows.map _⟩

/-- Only the last update of a call says which draft was opened last. This is read off the
plans, one after the other. -/
theorem Call.exists_front {updates : List Update} (h : call.updates moment r = .ok updates) :
    ∃ front back, updates = front ++ back ∧ back.length ≤ 1 ∧
      ∀ update ∈ front, ∀ id, update ≠ .active id := by
  -- the mark is the last update, if there is one
  have hopening : ∀ id, ∃ front back, r.opening id = front ++ back ∧ back.length ≤ 1 ∧
      ∀ update ∈ front, ∀ id, update ≠ Update.active id := by
    intro id
    refine ⟨[], r.opening id, rfl, ?_, fun _ hmem => nomatch hmem⟩
    rw [Reading.opening, List.length_map]
    cases r.opened? id <;> simp
  -- the document and the index come first, and then the mark
  have hinsertion : ∀ name content, r.insertion moment name content = .ok updates →
      ∃ front back, updates = front ++ back ∧ back.length ≤ 1 ∧
        ∀ update ∈ front, ∀ id, update ≠ Update.active id := by
    intro name content h
    unfold Reading.insertion at h
    split at h
    · cases h
    · rw [← Except.ok.inj h]
      exact ⟨[_, _], [_], rfl, Nat.le_refl 1, by simp⟩
  cases call with
  | openStore => exact ⟨[], [], (Except.ok.inj h).symm, Nat.zero_le 1, fun _ hmem => nomatch hmem⟩
  | create store name => exact hinsertion _ _ h
  | saveAs store name content => exact hinsertion _ _ h
  | load store id =>
    rw [← Except.ok.inj h]
    exact hopening id
  | loadActive store =>
    rw [← Except.ok.inj h]
    exact hopening _
  -- a draft is saved without a mark
  | autosave store id content =>
    rw [← Except.ok.inj h, Reading.resaving]
    cases r.draft id with
    | none => exact ⟨[], [], rfl, Nat.zero_le 1, fun _ hmem => nomatch hmem⟩
    | some draft => exact ⟨[_, _], [], rfl, Nat.zero_le 1, by simp⟩
  | delete store id =>
    have hdeletion : r.deletion id = .ok updates := h
    unfold Reading.deletion at hdeletion
    split at hdeletion
    · cases hdeletion
    split at hdeletion
    · cases hdeletion
    · rw [← Except.ok.inj hdeletion]
      refine ⟨_, _, rfl, ?_, by simp⟩
      cases (r.index.drop [id]).order.head? <;> simp

/-- What a call updates in front of another update is not which draft was opened last. -/
theorem Call.ne_active_of_before {done rest : List Update} {next : Update}
    (h : call.updates moment r = .ok (done ++ next :: rest)) :
    ∀ update ∈ done, ∀ id, update ≠ .active id := by
  obtain ⟨front, back, hfront, hback, hnot⟩ := Call.exists_front h
  -- at most one update is behind the front, so that those in front of another one are in it
  have hlength : done.length ≤ front.length := by
    have heq := congrArg List.length hfront
    simp only [List.length_append, List.length_cons] at heq
    omega
  have hdone : done <+: front ++ back := by
    rw [← hfront]
    exact List.prefix_append _ _
  have hbefore := (List.prefix_of_prefix_length_le hdone (List.prefix_append _ _) hlength).subset
  exact fun update hmem => hnot update (hbefore hmem)

/-- Opening a draft is one update, with none in front of it. -/
theorem Reading.eq_nil_of_opening {done rest : List Update} {next : Update} (r : Reading)
    (h : r.opening id = done ++ next :: rest) : done = [] := by
  have hlength : (done ++ next :: rest).length ≤ 1 := by
    rw [← h, Reading.opening, List.length_map]
    cases r.opened? id <;> simp
  rw [List.length_append, List.length_cons] at hlength
  exact List.length_eq_zero_iff.1 (by omega)

/-- Updates of other files do not change which draft was opened last. -/
theorem Reading.active_foldl {updates : List Update} (h : ∀ update ∈ updates, ∀ id, update ≠ .active id)
    (r : Reading) : (updates.foldl Reading.update r).active = r.active := by
  induction updates generalizing r with
  | nil => rfl
  | cons update updates ih =>
    rw [List.foldl_cons, ih fun other hother => h other (List.mem_cons_of_mem _ hother)]
    cases update with
    | active id => exact absurd rfl (h _ List.mem_cons_self id)
    | document | removal | index => rfl

/-- **A call that fails** on a store in order, by what is read behind it. It has not panicked:
either the store refuses it, and nothing has changed; or a file could not be changed, which the
error names, and exactly the updates in front of that one are made. In no case has the id changed
of the draft that was opened last, and opening a draft has changed nothing at all. -/
theorem call_failed {stop : Stop StoreError} (hintact : Intact s (Store.ofPreset root preset))
    (hclock : s.now.Proper) (hstore : ∀ store ∈ call.store?, store = Store.ofPreset root preset)
    (h : Ends (call.run root preset) s (.error stop) after) :
    let before := reading s (Store.ofPreset root preset)
    let behind := reading after (Store.ofPreset root preset)
    ∃ problem, stop = .failed problem ∧ behind.active = before.active ∧
      (∀ id, call = .load (Store.ofPreset root preset) id → behind = before) ∧
      ((call.updates (Moment.of s) before = .error problem ∧ behind = before) ∨
        ∃ done next rest cause, call.updates (Moment.of s) before = .ok (done ++ next :: rest) ∧
          problem = .write (next.file.path (Store.ofPreset root preset)) cause ∧
          behind = done.foldl Reading.update before) := by
  intro before behind
  obtain ⟨outcome, hresult, hfollows⟩ := call_follows hintact hclock hstore h
  obtain ⟨problem, rfl, rfl⟩ : ∃ problem, outcome = .error problem ∧ stop = .failed problem := by
    cases outcome with
    | ok x => cases hresult
    | error problem => exact ⟨problem, rfl, Except.error.inj hresult⟩
  refine ⟨problem, rfl, ?_⟩
  cases hplan : call.updates (Moment.of s) before with
  | error refused =>
    rw [hplan] at hfollows
    obtain ⟨hproblem, hread⟩ := hfollows
    have hsame : behind = before := hread
    rw [hsame]
    exact ⟨rfl, fun _ _ => rfl, .inl ⟨by rw [Except.error.inj hproblem], rfl⟩⟩
  | ok updates =>
    rw [hplan] at hfollows
    obtain ⟨done, next, rest, cause, rfl, hproblem, hread⟩ := Progress.exists_failed hfollows
    refine ⟨?_, fun id hcall => ?_, .inr ⟨done, next, rest, cause, rfl, hproblem, hread⟩⟩
    -- the update that failed was the last one or stood in front of it
    · exact (congrArg Reading.active hread).trans
        (Reading.active_foldl (Call.ne_active_of_before hplan) before)
    · have hopening : before.opening id = done ++ next :: rest := by
        rw [hcall] at hplan
        exact Except.ok.inj hplan
      rw [before.eq_nil_of_opening hopening] at hread
      exact hread

/-- A session with a store in order, where a directory has the name of the sibling file that the
index is written through. -/
def blockedSession : Session :=
  let draft (id : Text) : Draft := ⟨id, "Name", ⟨[], [], "Text"⟩, ⟨0, 0, 0⟩, ⟨0, 0, 0⟩⟩
  sessionOn
    [["data"], ["data", "bare"], ["data", "bare", "drafts"], ["data", "bare", ".index.json.tmp"]]
    [(["data", "bare", "index.json"], ((Index.empty.add (draft "b")).add (draft "a")).toJson.pretty),
      (["data", "bare", "active.json"], (Json.string "a").pretty),
      (["data", "bare", "drafts", "a.json"], (draft "a").toJson.pretty),
      (["data", "bare", "drafts", "b.json"], (draft "b").toJson.pretty)]

/-- Deleting a draft there. -/
def blockedCall : Call := .delete (Store.ofPreset "/data" barePreset) "a"

/-- The session behind it. -/
def blockedAfter : Session := ((blockedCall.run "/data" barePreset).run.run blockedSession).2

/-- The index is written through a sibling file, and that name is taken by a directory
here. -/
theorem blockedCall_result : ((blockedCall.run "/data" barePreset).run.run blockedSession).1 =
    .error (.failed (.write (Store.ofPreset "/data" barePreset).indexPath .isDirectory)) := by
  decide +kernel

/-- What the call wanted to update is made up to an update that failed. The session is in
order and its clock is proper, so the theorem applies. -/
theorem call_failed_blocked :
    ∃ done next rest, blockedCall.updates (Moment.of blockedSession)
        (reading blockedSession (Store.ofPreset "/data" barePreset)) = .ok (done ++ next :: rest) ∧
      reading blockedAfter (Store.ofPreset "/data" barePreset) =
        done.foldl Reading.update (reading blockedSession (Store.ofPreset "/data" barePreset)) := by
  have hintact : Intact blockedSession (Store.ofPreset "/data" barePreset) := by decide +kernel
  have hclock : blockedSession.now.Proper := by decide +kernel
  have hstore : ∀ store ∈ blockedCall.store?, store = Store.ofPreset "/data" barePreset :=
    fun store heq => (Option.some.inj heq).symm
  have hplan : (blockedCall.updates (Moment.of blockedSession)
      (reading blockedSession (Store.ofPreset "/data" barePreset))).toOption.isSome = true := by
    decide +kernel
  obtain ⟨_, -, -, -, ⟨hrefused, -⟩ | ⟨done, next, rest, _, hupdates, -, hread⟩⟩ :=
    call_failed hintact hclock hstore (Task.ends_of_fst_eq blockedCall_result)
  -- the store did not refuse the call, which has updates
  · rw [hrefused] at hplan
    cases hplan
  · exact ⟨done, next, rest, hupdates, hread⟩

/-- **Nothing is taken back.** The document is removed, and then the index cannot be written: the
draft is still listed and cannot be read any more. -/
theorem delete_not_atomic :
    Intact blockedSession (Store.ofPreset "/data" barePreset) ∧
      ((blockedCall.run "/data" barePreset).run.run blockedSession).1 =
        .error (.failed (.write (Store.ofPreset "/data" barePreset).indexPath .isDirectory)) ∧
      (readDraft blockedSession (Store.ofPreset "/data" barePreset) "a").isSome = true ∧
      readDraft blockedAfter (Store.ofPreset "/data" barePreset) "a" = none ∧
      ("a" : Text) ∈ (readIndex blockedAfter (Store.ofPreset "/data" barePreset)).order := by
  decide +kernel

end MarkupDesk.Drafts
