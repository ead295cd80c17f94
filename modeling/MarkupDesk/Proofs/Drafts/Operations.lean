/-
`Proofs/Drafts/Operations.lean` -- what each operation does to files that hold a shelf.

Each operation, run on files that hold the drafts of a shelf one of which was opened last
(`Keeps`), ends with what the operation on the shelf ends with, and behind it the files hold
the drafts of the new shelf. There is one lemma per operation.

Writing is supposed to succeed (`Written`): behind a failed write a document may be there
that the index does not tell of. Of a deletion, which may panic, the same is supposed
(`AllWritten`), and nothing about the panic: on files that hold a shelf there is none, because
the drafts of a shelf have different ids, so of two entries at least one stays (`delete_ends`).
-/
import MarkupDesk.Proofs.Drafts.Shelved

set_option autoImplicit false

namespace MarkupDesk.Drafts

open MarkupDesk.Task (Ends)

/-! ## 1. Writes that succeed -/

/-- The result is not that a file could not be written. -/
def Written {α : Type} : Except StoreError α → Prop
  | .error (.write _ _) => False
  | _ => True

instance {α : Type} (result : Except StoreError α) : Decidable (Written result) :=
  match result with
  | .ok _ => .isTrue trivial
  | .error (.write _ _) => .isFalse id
  | .error .lastDraft => .isTrue trivial
  | .error .emptyName => .isTrue trivial
  | .error (.notFound _) => .isTrue trivial

/-- The same of a task that may panic, which is no failed write either. -/
def AllWritten {α : Type} : Except (Stop StoreError) α → Prop
  | .error (.failed problem) => Written (.error problem : Except StoreError α)
  | _ => True

instance {α : Type} (result : Except (Stop StoreError) α) : Decidable (AllWritten result) :=
  match result with
  | .ok _ => .isTrue trivial
  | .error (.panicked _) => .isTrue trivial
  | .error (.failed problem) =>
    inferInstanceAs (Decidable (Written (.error problem : Except StoreError α)))

variable {s after : Session} {store : Store} {shelf : Shelf} {issued : List Text} {id name : Text}
  {content : Content}

/-- Whether a file could not be written is a matter of the error only. -/
theorem Written.error {α β : Type} {problem : StoreError}
    (h : Written (.error problem : Except StoreError α)) :
    Written (.error problem : Except StoreError β) := by
  cases problem with
  | write path cause => exact h.elim
  | _ => trivial

/-- What is computed with a result says nothing about writing. -/
theorem written_map {α β : Type} {outcome : Except StoreError α} {f : α → β}
    (h : Written (outcome.map f)) : Written outcome := by
  cases outcome with
  | ok _ => trivial
  | error problem => exact Written.error h

/-- A task that does not panic has written what it would have written elsewhere. -/
theorem allWritten_certain {α : Type} {outcome : Except StoreError α} :
    AllWritten (outcome.mapError .failed) ↔ Written outcome := by
  cases outcome <;> exact Iff.rfl

/-- Whether all was written can be told from the error alone, whatever the result would have
been. -/
theorem AllWritten.error {α β : Type} {stop : Stop StoreError}
    (h : AllWritten (.error stop : Except (Stop StoreError) α)) :
    AllWritten (.error stop : Except (Stop StoreError) β) := by
  cases stop with
  | failed problem => exact Written.error h
  | panicked panic => trivial

/-- `written_map` for tasks that may panic. -/
theorem allWritten_map {α β : Type} {outcome : Except (Stop StoreError) α} {f : α → β}
    (h : AllWritten (outcome.map f)) : AllWritten outcome := by
  cases outcome with
  | ok _ => trivial
  | error stop => exact AllWritten.error h

/-- A write that did not fail has ended well; there is no third way. With this the branches of
failed writes go. -/
theorem ends_write {path : Path} {task : Task Files.FileError Unit}
    {result : Except StoreError Unit} (hwritten : Written result)
    (h : Ends (Task.mapError (StoreError.write path) task) s result after) : result = .ok () := by
  obtain ⟨outcome, -, rfl⟩ := Task.ends_mapError.1 h
  cases outcome with
  | ok _ => rfl
  | error cause => exact hwritten.elim

/-- Where all writes succeed, what follows a write is run behind it. -/
theorem ends_write_bind {β : Type} {path : Path} {task : Task Files.FileError Unit}
    {rest : Unit → Task StoreError β} {result : Except StoreError β} (hwritten : Written result)
    (h : Ends (Task.mapError (StoreError.write path) task >>= rest) s result after) :
    ∃ between, Ends (Task.mapError (StoreError.write path) task) s (.ok ()) between ∧
      (rest ()).Ends between result after := by
  rcases Task.ends_bind.1 h with ⟨problem, hwrite, rfl⟩ | ⟨_, between, hwrite, hrest⟩
  · cases ends_write hwritten.error hwrite
  · exact ⟨between, hwrite, hrest⟩

/-! ## 2. The invariant of a store in use -/

/-- The files hold the drafts of a shelf, one of which was opened last. -/
structure Keeps (s : Session) (store : Store) (shelf : Shelf) (issued : List Text) : Prop extends
    Shelved s store shelf issued where
  active : ∃ id ∈ shelf.ids, shelf.active = some id ∧
    entryOf s store .active = some (document (.string id))

namespace Keeps

/-- Marking a draft as the one that was opened last. -/
theorem of_setActive (h : Shelved s store shelf issued) (hnamed : store.Named) (hid : id ∈ shelf.ids)
    (hactive : Ends (store.setActive id) s (.ok ()) after) :
    Keeps after store { shelf with active := some id } issued := by
  obtain ⟨hshelved, hentry⟩ := h.activate hnamed hactive
  exact ⟨hshelved, id, hid, rfl, hentry⟩

/-- The draft that was opened last stays so where it stays on the shelf. -/
theorem of_ids_eq {other : Shelf} (h : Keeps s store shelf issued)
    (hshelved : Shelved after store other issued) (hids : other.ids = shelf.ids)
    (hsame : other.active = shelf.active)
    (hentry : entryOf after store .active = entryOf s store .active) :
    Keeps after store other issued := by
  obtain ⟨id, hid, hactive, hlast⟩ := h.active
  exact ⟨hshelved, id, hids ▸ hid, hsame.trans hactive, hentry.trans hlast⟩

/-- The clock and the tokens have nothing to do with it. -/
theorem congr (h : Keeps s store shelf issued) (hdisk : after.disk = s.disk)
    (hcwd : after.cwd = s.cwd) : Keeps after store shelf issued := by
  refine h.of_ids_eq (h.toShelved.congr hdisk hcwd rfl) rfl rfl ?_
  rw [entryOf, entryOf, hdisk, hcwd]

/-- A shelf in use is never empty: the draft that was opened last is on it. The index lists
the same drafts, so it has a first entry too. -/
theorem exists_first (h : Keeps s store shelf issued) :
    ∃ first rest, shelf.drafts = first :: rest ∧ (readIndex s store).order.head? = some first.id := by
  obtain ⟨id, hid, -, -⟩ := h.active
  obtain ⟨draft, hdraft, -⟩ := List.mem_map.1 hid
  obtain ⟨first, rest, hdrafts⟩ := List.exists_cons_of_ne_nil (List.ne_nil_of_mem hdraft)
  refine ⟨first, rest, hdrafts, ?_⟩
  rw [h.tells.order, Shelf.ids, hdrafts]
  rfl

/-- The index of a store in use is there, so opening the store again does not begin it
anew. -/
theorem hasEntry (h : Keeps s store shelf issued) : s.disk.hasEntry s.cwd store.indexPath = true := by
  have hentry : s.disk.entry? s.cwd store.indexPath = some (document (readIndex s store).toJson) :=
    h.index
  exact Option.isSome_of_eq_some hentry

end Keeps

/-! ## 3. Making drafts -/

/-- An id is made of the time and the next token, which is used up. -/
theorem freshId_run (s : Session) :
    (Store.freshId s.now).run s =
      ((Moment.of s).draftId, { s with nextToken := s.nextToken + 1 }) := rfl

/-- A name of blanks is refused before a token is taken. -/
theorem insertNew_refused {result : Except StoreError Draft} (hname : (Text.trim name).isEmpty = true)
    (h : Ends (store.insertNew name content) s result after) :
    result = .error .emptyName ∧ after = s := by
  unfold Store.insertNew at h
  simp only [if_pos hname] at h
  exact Task.ends_throw_bind.1 h

/-- Behind the check of the name the document is saved and listed. Making the id has taken a
token, which no file knows of. -/
theorem ends_insertNew {result : Except StoreError Draft} (hname : ¬ (Text.trim name).isEmpty = true)
    (h : Ends (store.insertNew name content) s result after) :
    Ends (do
      store.saveDraft ((Moment.of s).draft name content)
      store.saveIndex ((← Task.lift store.index).add ((Moment.of s).draft name content))
      return (Moment.of s).draft name content) { s with nextToken := s.nextToken + 1 } result after := by
  unfold Store.insertNew at h
  simp only [if_neg hname] at h
  have h := Task.ends_lift_bind.1 (Task.ends_get_bind.1 h)
  rw [freshId_run] at h
  exact h

/-- **Making a draft.** An empty name changes nothing. -/
theorem insertNew_ends {result : Except StoreError Draft} (h : Shelved s store shelf issued)
    (hnamed : store.Named)
    (hnew : ¬ (Text.trim name).isEmpty = true → (Moment.of s).draftId ∉ issued)
    (hclock : s.now.ReadsBack) (hwritten : Written result)
    (hends : Ends (store.insertNew name content) s result after) :
    ((Text.trim name).isEmpty = true ∧ result = .error .emptyName ∧ after = s) ∨
      (¬ (Text.trim name).isEmpty = true ∧ result = .ok ((Moment.of s).draft name content) ∧
        ∀ active, Shelved after store ⟨(Moment.of s).draft name content :: shelf.drafts, active⟩
          ((Moment.of s).draftId :: issued)) := by
  by_cases hname : (Text.trim name).isEmpty = true
  · exact .inl ⟨hname, insertNew_refused hname hends⟩
  · have hends := ends_insertNew hname hends
    obtain ⟨between, hdraft, hends⟩ := ends_write_bind hwritten hends
    obtain ⟨between', hindex, hends⟩ := ends_write_bind hwritten (ends_index_bind.1 hends)
    obtain ⟨rfl, rfl⟩ := Task.ends_pure.1 hends
    refine .inr ⟨hname, rfl, fun active => ?_⟩
    -- taking a token changes nothing that a shelf tells
    have hstart : Shelved { s with nextToken := s.nextToken + 1 } store shelf issued :=
      h.congr rfl rfl rfl
    exact hstart.insert hnamed ((Moment.of s).draft name content) (hnew hname)
      (isClean_draftId (Moment.of s)) ⟨hclock, hclock⟩ hdraft hindex active

/-- What follows the making of a draft is run behind it, unless the name is empty. -/
theorem insertNew_bind_ends {β : Type} {rest : Draft → Task StoreError β}
    {result : Except StoreError β} (h : Shelved s store shelf issued) (hnamed : store.Named)
    (hnew : ¬ (Text.trim name).isEmpty = true → (Moment.of s).draftId ∉ issued)
    (hclock : s.now.ReadsBack) (hwritten : Written result)
    (hends : Ends (store.insertNew name content >>= rest) s result after) :
    ((Text.trim name).isEmpty = true ∧ result = .error .emptyName ∧ after = s) ∨
      (¬ (Text.trim name).isEmpty = true ∧ ∃ between,
        (∀ active, Shelved between store ⟨(Moment.of s).draft name content :: shelf.drafts, active⟩
          ((Moment.of s).draftId :: issued)) ∧
        (rest ((Moment.of s).draft name content)).Ends between result after) := by
  rcases Task.ends_bind.1 hends with ⟨problem, hinsert, rfl⟩ | ⟨draft, between, hinsert, hrest⟩
  · rcases insertNew_ends h hnamed hnew hclock hwritten.error hinsert with
      ⟨hname, hresult, rfl⟩ | ⟨-, hresult, -⟩
    · rw [Except.error.inj hresult]
      exact .inl ⟨hname, rfl, rfl⟩
    · cases hresult
  · -- the draft was made, so its files were written, whatever becomes of the rest
    have hmade : Written (.ok draft : Except StoreError Draft) := trivial
    rcases insertNew_ends h hnamed hnew hclock hmade hinsert with
      ⟨-, hresult, -⟩ | ⟨hname, hresult, hshelved⟩
    · cases hresult
    · obtain rfl := Except.ok.inj hresult
      exact .inr ⟨hname, between, hshelved, hrest⟩

/-- **Making a draft and opening it.** -/
theorem saveAs_ends {result : Except StoreError Draft} (h : Keeps s store shelf issued)
    (hnamed : store.Named)
    (hnew : ¬ (Text.trim name).isEmpty = true → (Moment.of s).draftId ∉ issued)
    (hclock : s.now.ReadsBack) (hwritten : Written result)
    (hends : Ends (store.saveAs name content) s result after) :
    result = (shelf.insertNew (Moment.of s) name content).1 ∧
      Keeps after store (shelf.insertNew (Moment.of s) name content).2
        (shelf.issue (shelf.insertNew (Moment.of s) name content).2 (Moment.of s) issued) := by
  rcases insertNew_bind_ends h.toShelved hnamed hnew hclock hwritten hends with
    ⟨hname, rfl, rfl⟩ | ⟨hname, between, hshelved, hends⟩
  · rw [Shelf.insertNew_of_empty hname, Shelf.issue_of_le (Nat.le_refl _)]
    exact ⟨rfl, h⟩
  -- the new draft becomes the active one in a save of its own
  · obtain ⟨between', hactive, hends⟩ := ends_write_bind hwritten hends
    obtain ⟨rfl, rfl⟩ := Task.ends_pure.1 hends
    rw [Shelf.insertNew_of_nonempty hname, Shelf.issue_cons]
    exact ⟨rfl, Keeps.of_setActive (hshelved none) hnamed List.mem_cons_self hactive⟩

/-! ## 4. Opening a store -/

/-- The name of a starter draft is none of blanks, so making it is never refused. -/
theorem trim_starterName : ¬ (Text.trim Store.starterName).isEmpty = true := by decide +kernel

/-- **Opening a store where there is no index.** There is one draft behind it. The empty
index is written first and read again, which is how the store comes to hold an empty shelf
at all. -/
theorem prepare_first {result : Except StoreError Unit} (hnamed : store.Named)
    (hentry : s.disk.hasEntry s.cwd store.indexPath = false) (hclock : s.now.ReadsBack)
    (hwritten : Written result) (hends : Ends store.prepare s result after) :
    result = .ok () ∧
      Keeps after store (Shelf.empty.insertNew (Moment.of s) Store.starterName store.defaults).2
        [(Moment.of s).draftId] := by
  unfold Store.prepare at hends
  have hends := Task.ends_lift_bind.1 hends
  have hentry : (Files.hasEntry store.indexPath).run s = (false, s) := by
    rw [← hentry]
    rfl
  simp only [hentry, Bool.not_false, if_true] at hends
  obtain ⟨between, hindex, hends⟩ := ends_write_bind hwritten hends
  obtain ⟨hstart, hsame⟩ := Shelved.start hnamed hindex
  have hends := ends_index_bind.1 hends
  have hempty : (readIndex between store).order.isEmpty = true := by
    rw [hstart.tells.order]
    rfl
  rw [if_pos hempty] at hends
  -- writing a file takes no token and leaves the clock
  have hmoment : Moment.of between = Moment.of s := by
    rw [hsame]
    rfl
  have hclock' : between.now.ReadsBack := by
    rw [hsame]
    exact hclock
  -- the name is not refused, so the draft is made and marked
  rcases insertNew_bind_ends hstart hnamed (fun _ => List.not_mem_nil) hclock' hwritten hends with
    ⟨hname, -, -⟩ | ⟨hname, made, hshelved, hactive⟩
  · exact absurd hname trim_starterName
  · obtain rfl := ends_write hwritten hactive
    rw [hmoment] at hshelved hactive
    rw [Shelf.insertNew_of_nonempty hname]
    exact ⟨rfl, Keeps.of_setActive (hshelved none) hnamed List.mem_cons_self hactive⟩

/-- Opening a store that is in use changes nothing. -/
theorem prepare_again {result : Except StoreError Unit} (h : Keeps s store shelf issued)
    (hends : Ends store.prepare s result after) : result = .ok () ∧ after = s := by
  unfold Store.prepare at hends
  have hends := Task.ends_lift_bind.1 hends
  have hentry : (Files.hasEntry store.indexPath).run s = (true, s) := by
    rw [← h.hasEntry]
    rfl
  simp only [hentry, Bool.not_true, Bool.false_eq_true, if_false] at hends
  have hends := ends_index_bind.1 hends
  obtain ⟨first, rest, -, hhead⟩ := h.exists_first
  -- a kept store lists a draft, so there is nothing to prepare
  have hempty : ¬ (readIndex s store).order.isEmpty = true := fun hempty => by
    rw [List.isEmpty_iff.1 hempty] at hhead
    cases hhead
  rw [if_neg hempty] at hends
  exact Task.ends_pure.1 hends

/-! ## 5. Loading -/

/-- Reading all listed drafts is one look at the disk: nothing is changed between them, so all
are read as the disk stood. -/
theorem candidates_run (s : Session) (store : Store) (index : Index) :
    (store.candidates index).run s = (index.order.map fun id => (id, readDraft s store id), s) := by
  unfold Store.candidates
  induction index.order with
  | nil => rfl
  | cons id ids ih =>
    have hfirst : (do return (id, ← store.get? id) : StateM Session (Text × Option Draft)).run s =
        ((id, readDraft s store id), s) := rfl
    rw [List.mapM_cons, Session.run_bind, Session.run_bind, hfirst, ih]
    rfl

/-- Where all drafts can be read, recovering finds the first of them and changes nothing. -/
theorem recover_ends {result : Except StoreError Draft} (h : Shelved s store shelf issued)
    {first : Draft} {rest : List Draft} (hdrafts : shelf.drafts = first :: rest)
    (hends : Ends store.recover s result after) : result = .ok first ∧ after = s := by
  have hread : ((readIndex s store).order.map fun id => (id, readDraft s store id)) =
      shelf.drafts.map fun draft => (draft.id, some draft) := by
    rw [h.tells.order, Shelf.ids, List.map_map]
    apply List.map_congr_left
    intro draft hdraft
    have hid : draft.id ∈ shelf.ids := List.mem_map_of_mem hdraft
    rw [Function.comp, h.readDraft_eq (h.sound.given _ hid),
      Shelf.find?_of_mem h.sound.distinct hdraft]
  -- all documents can be read, so no entry of the index is dropped
  have hdead : ((shelf.drafts.map fun draft => (draft.id, some draft)).filter
      fun candidate => candidate.2.isNone) = [] := by
    rw [List.filter_eq_nil_iff]
    intro candidate hmem
    obtain ⟨draft, -, rfl⟩ := List.mem_map.1 hmem
    simp
  have hfirst : (shelf.drafts.map fun draft => (draft.id, some draft)).findSome?
      (fun candidate => candidate.2) = some first := by
    rw [hdrafts]
    rfl
  unfold Store.recover at hends
  have hends := Task.ends_lift_bind.1 (ends_index_bind.1 hends)
  rw [candidates_run, hread] at hends
  simp only [hdead, hfirst, List.map_nil, List.isEmpty_nil, Bool.not_true, Bool.false_eq_true,
    if_false] at hends
  exact Task.ends_pure.1 hends

/-- **Opening a draft.** -/
theorem load_ends {result : Except StoreError Draft} (h : Keeps s store shelf issued)
    (hnamed : store.Named) (hid : id ∈ issued) (hwritten : Written result)
    (hends : Ends (store.load id) s result after) :
    result = (shelf.load id).1 ∧ Keeps after store (shelf.load id).2 issued := by
  obtain ⟨first, rest, hdrafts, -⟩ := h.exists_first
  -- whether the draft is found or recovered, what follows is the same
  have hopened : ∃ draft ∈ shelf.drafts, (shelf.find? id).or shelf.drafts.head? = some draft ∧
      Ends (store.setActive draft.id >>= fun _ => pure draft) s result after := by
    unfold Store.load at hends
    have hends := ends_get_bind.1 hends
    rw [h.readDraft_eq hid] at hends
    cases hfind : shelf.find? id with
    | some draft =>
      rw [hfind] at hends
      exact ⟨draft, Shelf.mem_of_find? hfind, rfl, hends⟩
    | none =>
      rw [hfind] at hends
      rcases Task.ends_bind.1 hends with ⟨problem, hrecover, -⟩ | ⟨draft, between, hrecover, hrest⟩
      · cases (recover_ends h.toShelved hdrafts hrecover).1
      · obtain ⟨hdraft, rfl⟩ := recover_ends h.toShelved hdrafts hrecover
        obtain rfl := Except.ok.inj hdraft
        rw [hdrafts]
        exact ⟨draft, List.mem_cons_self, rfl, hrest⟩
  obtain ⟨draft, hmem, hdraft, hends⟩ := hopened
  obtain ⟨between, hactive, hends⟩ := ends_write_bind hwritten hends
  obtain ⟨rfl, rfl⟩ := Task.ends_pure.1 hends
  rw [Shelf.load, hdraft]
  exact ⟨rfl, Keeps.of_setActive h.toShelved hnamed (List.mem_map_of_mem hmem) hactive⟩

/-- Of a store in use, the id that was opened last is that of the shelf. -/
theorem activeId_run (h : Keeps s store shelf issued) : store.activeId.run s = (shelf.active, s) := by
  obtain ⟨first, rest, -, hhead⟩ := h.exists_first
  obtain ⟨id, -, hactive, hentry⟩ := h.active
  have hread := readActive_of_entryOf hentry
  have hindex : store.index.run s = (readIndex s store, s) := rfl
  rw [Store.activeId, Session.run_bind, hindex]
  simp only [hhead, hactive, ← hread first.id]
  rfl

/-- **Opening the draft that was opened last.** -/
theorem loadActive_ends {result : Except StoreError Draft} (h : Keeps s store shelf issued)
    (hnamed : store.Named) (hwritten : Written result)
    (hends : Ends store.loadActive s result after) :
    result = (shelf.load (shelf.active.getD [])).1 ∧
      Keeps after store (shelf.load (shelf.active.getD [])).2 issued := by
  unfold Store.loadActive at hends
  have hends := Task.ends_lift_bind.1 hends
  rw [activeId_run h] at hends
  obtain ⟨id, hid, hactive, -⟩ := h.active
  rw [hactive] at hends ⊢
  exact load_ends h hnamed (h.sound.given id hid) hwritten hends

/-! ## 6. Saving and deleting -/

/-- **Saving a draft.** One that is gone stays gone. -/
theorem autosave_ends {result : Except StoreError (Option Draft)} (h : Keeps s store shelf issued)
    (hnamed : store.Named) (hid : id ∈ issued) (hclock : s.now.ReadsBack) (hwritten : Written result)
    (hends : Ends (store.autosave id content) s result after) :
    result = .ok (shelf.autosave (Moment.of s) id content).1 ∧
      Keeps after store (shelf.autosave (Moment.of s) id content).2 issued := by
  unfold Store.autosave at hends
  have hends := ends_get_bind.1 hends
  rw [h.readDraft_eq hid] at hends
  cases hfind : shelf.find? id with
  | none =>
    rw [hfind] at hends
    obtain ⟨rfl, rfl⟩ := Task.ends_pure.1 hends
    rw [Shelf.autosave, hfind]
    exact ⟨rfl, h⟩
  | some draft =>
    rw [hfind] at hends
    -- the draft is saved under its own id, which is the one that was asked for
    obtain rfl := Shelf.id_of_find? hfind
    have hends := Task.ends_get_bind.1 hends
    obtain ⟨between, hdraft, hends⟩ := ends_write_bind hwritten hends
    obtain ⟨between', hindex, hends⟩ := ends_write_bind hwritten (ends_index_bind.1 hends)
    obtain ⟨rfl, rfl⟩ := Task.ends_pure.1 hends
    have hcreated := (h.sound.times draft (Shelf.mem_of_find? hfind)).1
    obtain ⟨hshelved, hentry⟩ := h.toShelved.replace hnamed hfind
      { draft with content := content, updated := s.now } rfl rfl ⟨hcreated, hclock⟩ hdraft hindex
      shelf.active
    rw [Shelf.autosave, hfind]
    exact ⟨rfl, h.of_ids_eq hshelved (Shelf.ids_replace rfl) rfl hentry⟩

/-- The removal of a draft that is listed. -/
def Store.removeListed (store : Store) (index : Index) (id : Text) : Task StoreError Index := do
  Task.mapError (.write (store.draftPath id)) (Files.removeIfPresent (store.draftPath id))
  store.saveIndex (index.drop [id])
  return index.drop [id]

/-- The deletion of a draft that is listed. -/
def Store.deleteListed (store : Store) (index : Index) (id : Text) : Task (Stop StoreError) Text := do
  store.promote (← Task.certain (store.removeListed index id))

/-- A removal is refused where one entry is listed at most, and where the draft is not listed. -/
theorem ends_remove {result : Except StoreError Index} (h : Ends (store.remove id) s result after) :
    ((readIndex s store).order.length ≤ 1 ∧ result = .error .lastDraft ∧ after = s) ∨
      (1 < (readIndex s store).order.length ∧ id ∉ (readIndex s store).order ∧
        result = .error (.notFound id) ∧ after = s) ∨
      (1 < (readIndex s store).order.length ∧ id ∈ (readIndex s store).order ∧
        Ends (store.removeListed (readIndex s store) id) s result after) := by
  unfold Store.remove at h
  have h := ends_index_bind.1 h
  -- the last draft is looked at first, even if it is not the one to go
  by_cases hlast : (readIndex s store).order.length ≤ 1
  · simp only [if_pos hlast] at h
    exact .inl ⟨hlast, Task.ends_throw_bind.1 h⟩
  simp only [if_neg hlast] at h
  by_cases hmissing : (!(readIndex s store).order.contains id) = true
  · simp only [if_pos hmissing] at h
    exact .inr (.inl ⟨Nat.not_le.1 hlast, by simpa using hmissing, Task.ends_throw_bind.1 h⟩)
  · simp only [if_neg hmissing] at h
    exact .inr (.inr ⟨Nat.not_le.1 hlast, by simpa using hmissing, h⟩)

/-- A deletion is refused where the removal is, and else it is that of a draft that is listed. -/
theorem ends_delete {result : Except (Stop StoreError) Text}
    (h : Ends (store.delete id) s result after) :
    ((readIndex s store).order.length ≤ 1 ∧ result = .error (.failed .lastDraft) ∧ after = s) ∨
      (1 < (readIndex s store).order.length ∧ id ∉ (readIndex s store).order ∧
        result = .error (.failed (.notFound id)) ∧ after = s) ∨
      (1 < (readIndex s store).order.length ∧ id ∈ (readIndex s store).order ∧
        Ends (store.deleteListed (readIndex s store) id) s result after) := by
  rcases Task.ends_certain_bind.1 h with ⟨problem, hremove, rfl⟩ | ⟨rest, between, hremove, hpromote⟩
  · rcases ends_remove hremove with ⟨hlast, hresult, rfl⟩ | ⟨hmany, hmem, hresult, rfl⟩ |
      ⟨hmany, hmem, hlisted⟩
    · rw [Except.error.inj hresult]
      exact .inl ⟨hlast, rfl, rfl⟩
    · rw [Except.error.inj hresult]
      exact .inr (.inl ⟨hmany, hmem, rfl, rfl⟩)
    · exact .inr (.inr ⟨hmany, hmem, Task.ends_certain_bind.2 (.inl ⟨_, hlisted, rfl⟩)⟩)
  -- an index is left only by a removal that went through
  · rcases ends_remove hremove with ⟨-, hresult, -⟩ | ⟨-, -, hresult, -⟩ | ⟨hmany, hmem, hlisted⟩
    · cases hresult
    · cases hresult
    · exact .inr (.inr ⟨hmany, hmem, Task.ends_certain_bind.2 (.inr ⟨_, _, hlisted, hpromote⟩)⟩)

/-- Where all writes succeed, the document goes, then the entries of the index, and then the first
draft that is left is looked for. -/
theorem ends_deleteListed {index : Index} {result : Except (Stop StoreError) Text}
    (hwritten : AllWritten result) (h : Ends (store.deleteListed index id) s result after) :
    ∃ removed saved, Ends (Files.removeIfPresent (store.draftPath id)) s (.ok ()) removed ∧
      Ends (store.saveIndex (index.drop [id])) removed (.ok ()) saved ∧
      Ends (store.promote (index.drop [id])) saved result after := by
  rcases Task.ends_certain_bind.1 h with ⟨problem, hremove, rfl⟩ | ⟨rest, saved, hremove, hpromote⟩
  · have hwritten : Written (.error problem : Except StoreError Index) := Written.error hwritten
    obtain ⟨removed, -, hremove⟩ := ends_write_bind hwritten hremove
    obtain ⟨saved, -, hremove⟩ := ends_write_bind hwritten hremove
    -- a removal whose files were written does not fail
    cases (Task.ends_pure.1 hremove).1
  · have hwritten : Written (.ok rest : Except StoreError Index) := trivial
    obtain ⟨removed, hdocument, hremove⟩ := ends_write_bind hwritten hremove
    obtain ⟨saved', hindex, hremove⟩ := ends_write_bind hwritten hremove
    obtain ⟨hrest, rfl⟩ := Task.ends_pure.1 hremove
    rw [Except.ok.inj hrest] at hpromote
    exact ⟨removed, saved, Task.ends_mapError_ok.1 hdocument, hindex, hpromote⟩

/-- From an index without entries there is no way on. -/
theorem promote_nil {index : Index} (horder : index.order = []) :
    store.promote index = throw (.panicked (.outOfBounds 0 0)) := by
  unfold Store.promote
  rw [horder]
  rfl

/-- Where a draft is left, taking the first one does not panic. -/
theorem promote_cons {index : Index} {first : Text} {rest : List Text}
    (horder : index.order = first :: rest) :
    store.promote index = (do
      Task.certain (store.setActive first)
      return first) := by
  unfold Store.promote
  rw [horder]
  rfl

/-- The first entry is marked as the draft that was opened last, if the mark can be written. -/
theorem ends_promote_written {index : Index} {first : Text} {rest : List Text}
    {result : Except (Stop StoreError) Text} (horder : index.order = first :: rest)
    (hwritten : AllWritten result) (h : Ends (store.promote index) s result after) :
    result = .ok first ∧ Ends (store.setActive first) s (.ok ()) after := by
  rw [promote_cons horder] at h
  rcases Task.ends_certain_bind.1 h with
    ⟨problem, hactive, rfl⟩ | ⟨_, between, hactive, hpure⟩
  · have hwritten : Written (.error problem : Except StoreError Unit) := Written.error hwritten
    cases ends_write hwritten hactive
  · obtain ⟨rfl, rfl⟩ := Task.ends_pure.1 hpure
    exact ⟨rfl, hactive⟩

/-- **Deleting a draft.** The last one and one that is gone are not deleted. -/
theorem delete_ends {result : Except (Stop StoreError) Text} (h : Keeps s store shelf issued)
    (hnamed : store.Named) (hid : id ∈ issued) (hwritten : AllWritten result)
    (hends : Ends (store.delete id) s result after) :
    result = (shelf.delete id).1.mapError .failed ∧ Keeps after store (shelf.delete id).2 issued := by
  have horder := h.tells.order
  have hlength : (readIndex s store).order.length = shelf.drafts.length := by
    rw [horder, Shelf.ids, List.length_map]
  have hcases := ends_delete hends
  rw [hlength, horder] at hcases
  unfold Shelf.delete
  obtain ⟨hlast, rfl, rfl⟩ | ⟨hmany, hmem, rfl, rfl⟩ | ⟨hmany, hmem, hends⟩ := hcases
  · rw [if_pos hlast]
    exact ⟨rfl, h⟩
  · rw [if_neg (Nat.not_le.2 hmany), if_pos hmem]
    exact ⟨rfl, h⟩
  · rw [if_neg (Nat.not_le.2 hmany), if_neg (not_not.2 hmem)]
    obtain ⟨removed, saved, hremove, hindex, hpromote⟩ := ends_deleteListed hwritten hends
    have hshelved := h.toShelved.remove hnamed hid hremove hindex none
    have hleft := (h.tells.drop id none).order
    cases hrest : shelf.drafts.filter fun draft => draft.id ≠ id with
    | nil =>
      -- there were two drafts at least and one is gone
      have hlength := Shelf.length_filter h.sound.distinct hmem
      rw [hrest, List.length_nil] at hlength
      omega
    | cons next rest =>
      rw [hrest] at hleft hshelved
      obtain ⟨rfl, hactive⟩ := ends_promote_written hleft hwritten hpromote
      exact ⟨rfl, Keeps.of_setActive hshelved hnamed List.mem_cons_self hactive⟩

end MarkupDesk.Drafts
