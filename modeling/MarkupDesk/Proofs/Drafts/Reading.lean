/-
`Proofs/Drafts/Reading.lean` -- the ids that a store makes, and what it reads.

Ids that the store makes are file names already (`isClean_draftId`), so that different ones
have different files. A store reads three things: the index, the drafts by id, and the id
that was opened last. Each is read back from the file that its saving leaves.
-/
import MarkupDesk.Proofs.Drafts.Shelf
import MarkupDesk.Proofs.Drafts.Slot

set_option autoImplicit false

namespace MarkupDesk.Drafts

open Calendar (Timestamp)
open Json (Reader)
open MarkupDesk.Task (Ends)

/-! ## 1. Ids -/

/-- What a number is written with, in any base, are the digits of that base. -/
theorem exists_digitChar {base : Nat} (hbase : 1 < base) (n : Nat) {c : Char}
    (h : c ∈ Nat.toDigits base n) : ∃ k < base, c = Nat.digitChar k := by
  induction n using Nat.strong_induction_on with
  | _ n ih =>
    rw [Nat.toDigits_eq_if hbase] at h
    split at h
    next hn => exact ⟨n, hn, List.mem_singleton.1 h⟩
    next hn =>
      rcases List.mem_append.1 h with h | h
      · exact ih (n / base) (Nat.div_lt_self (by omega) hbase) h
      · exact ⟨n % base, Nat.mod_lt n (by omega), List.mem_singleton.1 h⟩

/-- The character may stand anywhere in a file name. -/
def IsFree (c : Char) : Prop := isNameChar c = true ∧ c ≠ '.'

instance (c : Char) : Decidable (IsFree c) := inferInstanceAs (Decidable (_ ∧ _))

/-- Digits are written as themselves in a name, up to base sixteen; the same holds of what
else ids are made of, which the next two lemmas say. -/
theorem isFree_digits {base : Nat} (hbase : 1 < base) (hlimit : base ≤ 16) (n : Nat) {c : Char}
    (h : c ∈ Nat.toDigits base n) : IsFree c := by
  obtain ⟨k, hk, rfl⟩ := exists_digitChar hbase n h
  -- the digits of all bases in use are among these
  have hall : ∀ k < 16, IsFree (Nat.digitChar k) := by decide
  exact hall k (Nat.lt_of_lt_of_le hk hlimit)

/-- A number may have a sign, which is free as well. -/
theorem isFree_ofInt (z : Int) {c : Char} (h : c ∈ Text.ofInt z) : IsFree c := by
  unfold Text.ofInt at h
  split at h
  · rcases List.mem_cons.1 h with rfl | h
    · decide
    · exact isFree_digits (by decide) (by decide) _ h
  · exact isFree_digits (by decide) (by decide) _ h

theorem isFree_hexPadded (width n : Nat) {c : Char} (h : c ∈ Text.hexPadded width n) : IsFree c := by
  rcases List.mem_append.1 h with h | h
  · rw [List.eq_of_mem_replicate h]
    decide
  · exact isFree_digits (by decide) (by decide) _ h

/-- A text of such characters is a file name as it stands: nothing in it is masked, and
nothing at its ends is dropped. -/
theorem isClean_of_isFree {id : Text} (hne : id ≠ []) (h : ∀ c ∈ id, IsFree c) : IsClean id := by
  have hdot : '.' ∉ id := fun hmem => (h '.' hmem).2 rfl
  exact isClean_of_ends hne (fun c hc => (h c hc).1) (fun hfirst => hdot (List.mem_of_head? hfirst))
    fun hlast => hdot (List.mem_of_getLast? hlast)

/-- **An id that a store makes is the file name made of it.** -/
theorem isClean_draftId (moment : Moment) : IsClean moment.draftId := by
  have hhead : ("d_" : Text) = ['d', '_'] := rfl
  rw [Moment.draftId, hhead]
  -- an id is made of its mark, a number, a separator and digits, and all of these may stand in a
  -- name
  refine isClean_of_isFree (by simp) fun c hc => ?_
  rcases List.mem_append.1 hc with hc | hc
  · rcases List.mem_append.1 hc with hc | hc
    · have hboth : IsFree 'd' ∧ IsFree '_' := by decide
      rcases List.mem_pair.1 hc with rfl | rfl
      · exact hboth.1
      · exact hboth.2
    · exact isFree_ofInt _ hc
  · rcases List.mem_cons.1 hc with rfl | hc
    · decide
    · exact isFree_hexPadded _ _ hc

/-- Different ids that are file names already are the names of different files. -/
theorem componentName_ne {id other : Text} (hid : IsClean id) (hother : IsClean other)
    (hne : id ≠ other) : componentName id ≠ componentName other := by
  rwa [hid, hother]

/-! ## 2. What a store reads -/

/-- The index as it is read. -/
def readIndex (s : Session) (store : Store) : Index :=
  s.disk.readRecord s.cwd store.indexPath Index.shape.reader .empty

/-- The draft with an id as it is read. -/
def readDraft (s : Session) (store : Store) (id : Text) : Option Draft :=
  s.disk.readRecord s.cwd (store.draftPath id) (.optional Draft.shape.reader) none

/-- The id that was opened last as it is read. -/
def readActive (fallback : Text) (s : Session) (store : Store) : Text :=
  s.disk.readRecord s.cwd store.activePath Reader.string fallback

variable {s after : Session} {store : Store} {draft : Draft} {id : Text} {index : Index}

/-- If the slot of the index holds an index, that index is read. The lemmas of this kind turn
what was written into a slot into what is read from the store. -/
theorem readIndex_of_entryOf (hindex : index.ReadsBack)
    (h : entryOf s store .index = some (document index.toJson)) : readIndex s store = index := by
  have hentry : s.disk.entry? s.cwd store.indexPath = some (document index.toJson) := h
  rw [readIndex, Files.Disk.readRecord_eq, hentry]
  exact decodeOr_index hindex

/-- If the slot of a draft holds a draft, that one is read under the id of the slot. -/
theorem readDraft_of_entryOf (hdraft : draft.ReadsBack)
    (h : entryOf s store (.draft id) = some (document draft.toJson)) :
    readDraft s store id = some draft := by
  have hentry : s.disk.entry? s.cwd (store.draftPath id) = some (document draft.toJson) := h
  rw [readDraft, Files.Disk.readRecord_eq, hentry]
  exact decodeOr_draft hdraft

/-- Where there is no document no draft is read. -/
theorem readDraft_of_gone (h : entryOf s store (.draft id) = none) : readDraft s store id = none := by
  have hentry : s.disk.entry? s.cwd (store.draftPath id) = none := h
  rw [readDraft, Files.Disk.readRecord_eq, hentry]

/-- If the slot of the active id holds an id, that one is read, and the fallback is not. -/
theorem readActive_of_entryOf (h : entryOf s store .active = some (document (.string id)))
    (fallback : Text) : readActive fallback s store = id := by
  have hentry : s.disk.entry? s.cwd store.activePath = some (document (.string id)) := h
  rw [readActive, Files.Disk.readRecord_eq, hentry]
  exact decodeOr_id fallback id

/-- What follows a look at the index goes on with what is read. The operations all begin like
this or with a look at a draft. -/
theorem ends_index_bind {β : Type} {rest : Index → Task StoreError β} {result : Except StoreError β} :
    Ends (Task.lift store.index >>= rest) s result after ↔
      (rest (readIndex s store)).Ends s result after := Task.ends_lift_bind

/-- What follows a look at a draft goes on with what is read of it. -/
theorem ends_get_bind {β : Type} {rest : Option Draft → Task StoreError β}
    {result : Except StoreError β} :
    Ends (Task.lift (store.get? id) >>= rest) s result after ↔
      (rest (readDraft s store id)).Ends s result after := Task.ends_lift_bind

/-! ## 3. What a store writes -/

/-- All three kinds of files are saved in one way, into their slots; so there is one set of
lemmas on saving. -/
theorem saveDraft_eq (store : Store) (draft : Draft) :
    store.saveDraft draft = Store.save ((Slot.draft draft.id).path store) draft.toJson := rfl

theorem saveIndex_eq (store : Store) (index : Index) :
    store.saveIndex index = Store.save (Slot.index.path store) index.toJson := rfl

theorem setActive_eq (store : Store) (id : Text) :
    store.setActive id = Store.save (Slot.active.path store) (.string id) := rfl

theorem draftPath_eq (store : Store) (id : Text) :
    store.draftPath id = (Slot.draft id).path store := rfl

end MarkupDesk.Drafts
