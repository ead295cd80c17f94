/-
`Proofs/Drafts/Step.lean` -- the steps that operations on drafts are made of.

All that an operation on drafts does is to ask whether there is an index, to load, save and remove
single files of its store, to look at the clock and to take a token. Each operation is followed
through its branches once, here, and found to be `Composed` of such steps. What a step may do is
then what any operation may do.
-/
import MarkupDesk.Proofs.Drafts.Reading
import MarkupDesk.Proofs.Files.Step

set_option autoImplicit false

namespace MarkupDesk.Drafts

open Calendar (Timestamp)

/-! ## 1. Steps -/

/-- One thing that is done with a file of the store. Looking at the clock and taking a token need
none. -/
inductive Store.Step (store : Store) : (α : Type) → StateM Session α → Prop where
  | clock : Step store _ Session.clock
  | token : Step store _ Session.freshToken
  | find (slot : Slot) : Step store _ (Files.hasEntry (slot.path store))
  | load {α : Type} (slot : Slot) (reader : Json.Reader α) (fallback : α) :
    Step store _ (Files.loadRecord (slot.path store) reader fallback)
  | save (slot : Slot) (value : Json) : Step store _ (Store.save (slot.path store) value).run
  | remove (id : Text) :
    Step store _ (Task.mapError (StoreError.write (store.draftPath id))
      (Files.removeIfPresent (store.draftPath id))).run

/-- The action is made of steps on the store. -/
abbrev Store.Does (store : Store) {α : Type} (action : StateM Session α) : Prop :=
  Composed store.Step action

variable {store : Store}

/-! ## 2. Looking -/

/-- To look at the index is one step. The lemmas of this module go through the operations in
the order in which they are defined, each from those before it. -/
theorem does_index : store.Does store.index := .step (.load .index _ _)

/-- The list is what the index says of the drafts. -/
theorem does_list : store.Does store.list := does_index.map Index.summaries

/-- A draft is one file. -/
theorem does_get? (id : Text) : store.Does (store.get? id) := .step (.load (.draft id) _ _)

/-- The active id is asked for with the first of the list as what stands in for it, so the
index is looked at first. -/
theorem does_activeId : store.Does store.activeId := by
  refine .andThen does_index fun index => ?_
  cases index.order.head? with
  | some first =>
    have hstored : store.Does (Files.loadRecord store.activePath .string first) :=
      .step (.load .active _ _)
    exact hstored.map some
  | none => exact .step (.load .active _ _)

/-- All listed drafts are looked at, one by one. -/
theorem does_candidates (index : Index) : store.Does (store.candidates index) := by
  have hcandidate : ∀ id, store.Does (do return (id, ← store.get? id)) :=
    fun id => (does_get? id).map (Prod.mk id)
  unfold Store.candidates
  induction index.order with
  | nil => exact .done _
  | cons id order ih =>
    rw [List.mapM_cons]
    exact .andThen (hcandidate id) fun first => .andThen ih fun rest => .done (first :: rest)

/-! ## 3. Writing -/

/-- To save a draft, the index or the active id is one step each: only the slot and the value
differ. -/
theorem does_saveDraft (draft : Draft) : store.Does (store.saveDraft draft).run := by
  rw [saveDraft_eq]
  exact .step (.save _ _)

theorem does_saveIndex (index : Index) : store.Does (store.saveIndex index).run := by
  rw [saveIndex_eq]
  exact .step (.save _ _)

theorem does_setActive (id : Text) : store.Does (store.setActive id).run := by
  rw [setActive_eq]
  exact .step (.save _ _)

/-- Of the session nothing is read but the clock. -/
theorem does_now {α : Type} (rest : Timestamp → Task StoreError α)
    (h : ∀ now, store.Does (rest now).run) :
    store.Does ((get : Task StoreError Session) >>= fun s => rest s.now).run := by
  show store.Does (Session.clock >>= fun now => (rest now).run)
  exact .andThen (.step .clock) h

/-- A new id takes a token; the time in it was looked at before. -/
theorem does_freshId (now : Timestamp) : store.Does (Store.freshId now) := by
  have htoken : store.Does Session.freshToken := .step .token
  exact htoken.map fun token => "d_" ++ Text.ofInt now.milliseconds ++ '_' :: token

/-- Making a draft: the clock, a token, the document, the index. -/
theorem does_insertNew (name : Text) (content : Content) :
    store.Does (store.insertNew name content).run := by
  unfold Store.insertNew
  simp only
  split
  · -- an empty name is refused before anything is done
    exact .task_throw _
  refine does_now (fun now => do
    let id ← Task.lift (Store.freshId now)
    let draft : Draft := ⟨id, Text.trim name, content, now, now⟩
    store.saveDraft draft
    store.saveIndex ((← Task.lift store.index).add draft)
    return draft) fun now => ?_
  refine .task_bind (.task_lift (does_freshId now)) fun id => ?_
  refine .task_bind (does_saveDraft _) fun _ => .task_bind (.task_lift does_index) fun index => ?_
  exact .task_bind (does_saveIndex _) fun _ => .task_pure _

/-! ## 4. Operations -/

/-- A draft is made the active one, and the operation ends with it. -/
theorem does_activate {α : Type} (id : Text) (x : α) :
    store.Does (do store.setActive id; return x : Task StoreError α).run :=
  .task_bind (does_setActive id) fun _ => .task_pure x

/-- A draft that was made is marked as opened last. -/
theorem does_saveAs (name : Text) (content : Content) : store.Does (store.saveAs name content).run :=
  .task_bind (does_insertNew name content) fun draft => does_activate draft.id draft

theorem does_create (name : Text) : store.Does (store.create name).run :=
  does_saveAs name store.defaults

/-- Where no draft is listed, a first one is made and opened. -/
theorem does_starter :
    store.Does (do
      if (← Task.lift store.index).order.isEmpty then
        let starter ← store.insertNew Store.starterName store.defaults
        store.setActive starter.id : Task StoreError Unit).run := by
  refine .task_bind (.task_lift does_index) fun index => ?_
  split
  · exact .task_bind (does_insertNew _ _) fun starter => does_setActive starter.id
  · exact .task_pure _

/-- Preparing asks for the index, makes one if there is none, and then a starter draft if
nothing is listed. -/
theorem does_prepare : store.Does store.prepare.run := by
  refine .task_bind (.task_lift (.step (.find .index))) fun there => ?_
  cases there with
  | true => exact does_starter
  | false => exact .task_bind (does_saveIndex .empty) fun _ => does_starter

/-- Opening a store is preparing it. -/
theorem does_openFor (root : Path) (preset : Preset) :
    (Store.ofPreset root preset).Does (Store.openFor root preset).run :=
  .task_bind does_prepare fun _ => .task_pure _

/-- What recovery ends with: a draft that was found, or one that is made. -/
theorem does_foundOrMade (found : Option Draft) :
    store.Does (match found with
      | some draft => return draft
      | none => store.insertNew Store.starterName store.defaults : Task StoreError Draft).run := by
  cases found with
  | some draft => exact .task_pure draft
  | none => exact does_insertNew _ _

/-- Recovery reads all listed drafts, saves the index where some are dropped, and makes a
draft where none is left. -/
theorem does_recover : store.Does store.recover.run := by
  unfold Store.recover
  refine .task_bind (.task_lift does_index) fun index => ?_
  refine .task_bind (.task_lift (does_candidates index)) fun candidates => ?_
  simp only
  split
  · exact .task_bind (does_saveIndex _) fun _ => does_foundOrMade _
  · exact does_foundOrMade _

/-- Opening a draft reads it or recovers. -/
theorem does_load (id : Text) : store.Does (store.load id).run := by
  unfold Store.load
  refine .task_bind (.task_lift (does_get? id)) fun found => ?_
  cases found with
  | some draft => exact .task_bind (.task_pure draft) fun draft => does_activate draft.id draft
  | none => exact .task_bind does_recover fun draft => does_activate draft.id draft

theorem does_loadActive : store.Does store.loadActive.run :=
  .task_bind (.task_lift does_activeId) fun _ => does_load _

/-- Saving a draft reads it first, and its document and the index are written behind that. -/
theorem does_autosave (id : Text) (content : Content) : store.Does (store.autosave id content).run := by
  unfold Store.autosave
  refine .task_bind (.task_lift (does_get? id)) fun found => ?_
  cases found with
  | none => exact .task_pure _
  | some draft =>
    refine does_now (fun now => do
      let draft : Draft := { draft with content := content, updated := now }
      store.saveDraft draft
      store.saveIndex ((← Task.lift store.index).touch id draft)
      return some draft) fun now => ?_
    refine .task_bind (does_saveDraft _) fun _ => .task_bind (.task_lift does_index) fun index => ?_
    exact .task_bind (does_saveIndex _) fun _ => .task_pure _

/-- The part of a deletion that cannot panic. -/
theorem does_remove (id : Text) : store.Does (store.remove id).run := by
  unfold Store.remove
  refine .task_bind (.task_lift does_index) fun index => ?_
  simp only
  -- the last draft stays, and one that is not listed is not looked for
  split
  · exact .task_throw _
  split
  · exact .task_throw _
  refine .task_bind (.step (.remove id)) fun _ => .task_bind (does_saveIndex _) fun _ => ?_
  exact .task_pure _

/-- Behind the removal one file is saved, or nothing is done any more. -/
theorem does_delete (id : Text) : store.Does (store.delete id).run := by
  refine .task_bind (.task_certain (does_remove id)) fun rest => ?_
  refine .task_bind (.task_entryAt _ _) fun first => ?_
  exact .task_bind (.task_certain (does_setActive first)) fun _ => .task_pure _

end MarkupDesk.Drafts
