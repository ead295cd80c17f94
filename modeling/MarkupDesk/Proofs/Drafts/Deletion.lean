/-
`Proofs/Drafts/Deletion.lean` -- deleting a draft, whatever the index lists.

The index is a file that anyone may edit, so it may list a draft more than once. Deleting counts
the entries before it drops those of the draft, and it drops all of them. Where something else is
listed, the draft is gone from the list and the first one that is left takes its place. Where the
entries are copies of one draft, the count lets them pass, the list that is written is empty, and
taking its first entry is a panic (`delete_outcome`). It comes last: the document is removed and
the empty list is written by then, and nothing brings them back (`delete_copies_panics`).
-/
import MarkupDesk.Proofs.Drafts.Healing

set_option autoImplicit false

namespace MarkupDesk.Drafts

open Files (Location)
open MarkupDesk.Task (Ends)

variable {s after : Session} {root : Path} {preset : Preset} {store : Store} {id : Text}
  {result : Except (Stop StoreError) Text}

/-- The list names the draft more than once, and no other one. -/
def OnlyCopies (id : Text) (order : List Text) : Prop :=
  1 < order.length ∧ ∀ other ∈ order, other = id

instance (id : Text) (order : List Text) : Decidable (OnlyCopies id order) :=
  inferInstanceAs (Decidable (_ ∧ _))

theorem OnlyCopies.mem {order : List Text} (h : OnlyCopies id order) : id ∈ order := by
  obtain ⟨other, hother⟩ := List.exists_mem_of_length_pos (Nat.zero_lt_of_lt h.1)
  rwa [h.2 other hother] at hother

theorem order_drop (index : Index) (id : Text) :
    (index.drop [id]).order = index.order.filter (· ≠ id) := by
  rw [Index.drop]
  apply List.filter_congr
  intro other _
  simp

/-- A draft that is listed loses all of its entries. The first one that is left is marked, and
where none is left, that is a panic. -/
theorem deleteListed_ends (hnamed : store.Named) (hwritten : AllWritten result)
    (h : Ends (store.deleteListed (readIndex s store) id) s result after) :
    (readIndex after store).order = (readIndex s store).order.filter (· ≠ id) ∧
      (((readIndex after store).order = [] ∧ result = .error (.panicked (.outOfBounds 0 0))) ∨
        ∃ next rest, (readIndex after store).order = next :: rest ∧ result = .ok next ∧
          ∀ fallback, readActive fallback after store = next) := by
  obtain ⟨removed, saved, -, hsave, hpromote⟩ := ends_deleteListed hwritten h
  obtain ⟨hread, hfolder⟩ :=
    saveIndex_reads hnamed ((readIndex_readsBack s store).drop [id]) hsave
  have horder : (readIndex saved store).order = (readIndex s store).order.filter (· ≠ id) := by
    rw [hread, order_drop]
  cases hrest : ((readIndex s store).drop [id]).order with
  | nil =>
    -- nothing is left to be promoted, and the list was written before
    rw [promote_nil hrest] at hpromote
    obtain ⟨hresult, rfl⟩ := Task.ends_throw.1 hpromote
    rw [order_drop] at hrest
    exact ⟨horder, .inl ⟨horder.trans hrest, hresult⟩⟩
  | cons next rest =>
    obtain ⟨hresult, hmark⟩ := ends_promote_written hrest hwritten hpromote
    -- the mark goes into a file of its own, so the list is the one that was saved
    obtain ⟨hsame, hactive⟩ := setActive_reads hnamed hfolder hmark
    rw [order_drop] at hrest
    rw [hsame]
    exact ⟨horder, .inr ⟨next, rest, horder.trans hrest, hresult, hactive⟩⟩

/-- Nothing is left of a list if all of its entries are copies. -/
theorem filter_eq_nil_iff_copies (id : Text) (order : List Text) :
    order.filter (· ≠ id) = [] ↔ ∀ other ∈ order, other = id := by
  rw [List.filter_eq_nil_iff]
  simp

/-- **Deleting a draft, whatever is listed.** Where a draft is put in the place of the deleted one,
it is the first one of the list that is left, the deleted one is not in it any more, and the mark
is on the first one. A list of one entry, and one without the draft, are left alone. A deletion
panics only if the list has more than one entry and they all are the draft that is deleted; then
the first entry of an empty list was taken, which has been written before. If the files can be
written, each such list is a panic. -/
theorem delete_outcome (h : Ends ((Store.ofPreset root preset).delete id) s result after) :
    let store := Store.ofPreset root preset
    let order := (readIndex s store).order
    (∀ next, result = .ok next →
      (readIndex after store).order = order.filter (· ≠ id) ∧
      id ∉ (readIndex after store).order ∧
      (readIndex after store).order.head? = some next ∧
      ∀ fallback, readActive fallback after store = next) ∧
    (order.length ≤ 1 → result = .error (.failed .lastDraft) ∧ after = s) ∧
    (1 < order.length → id ∉ order → result = .error (.failed (.notFound id)) ∧ after = s) ∧
    (∀ panic, result = .error (.panicked panic) →
      OnlyCopies id order ∧ panic = .outOfBounds 0 0 ∧ (readIndex after store).order = []) ∧
    (AllWritten result → OnlyCopies id order → Stop.isPanic result = true) := by
  intro store order
  have hnamed : store.Named := named_ofPreset root preset
  obtain ⟨hone, rfl, rfl⟩ | ⟨hmany, hmem, rfl, rfl⟩ | ⟨hmany, hmem, h⟩ := ends_delete h
  · have hnot : ¬ 1 < order.length := Nat.not_lt.2 hone
    exact ⟨nofun, fun _ => ⟨rfl, rfl⟩, fun hmany => absurd hmany hnot, nofun,
      fun _ hcopies => absurd hcopies.1 hnot⟩
  · have hnot : ¬ order.length ≤ 1 := Nat.not_le.2 hmany
    exact ⟨nofun, fun hone => absurd hone hnot, fun _ _ => ⟨rfl, rfl⟩, nofun,
      fun _ hcopies => absurd hcopies.mem hmem⟩
  · have hnot : ¬ order.length ≤ 1 := Nat.not_le.2 hmany
    refine ⟨?_, fun hone => absurd hone hnot, fun _ hno => absurd hmem hno, ?_,
      fun hwritten hcopies => ?_⟩
    · rintro next rfl
      have hwritten : AllWritten (.ok next : Except (Stop StoreError) Text) := trivial
      obtain ⟨hread, ⟨-, hresult⟩ | ⟨first, rest, hfirst, hresult, hactive⟩⟩ :=
        deleteListed_ends hnamed hwritten h
      · cases hresult
      · obtain rfl := Except.ok.inj hresult
        refine ⟨hread, ?_, ?_, hactive⟩
        · rw [hread]
          simp
        · rw [hfirst, List.head?_cons]
    · -- a panic is no failed write, so all that comes before it was written
      rintro panic rfl
      have hwritten : AllWritten (.error (.panicked panic) : Except (Stop StoreError) Text) := trivial
      obtain ⟨hread, ⟨hnil, hresult⟩ | ⟨_, _, -, hresult, -⟩⟩ := deleteListed_ends hnamed hwritten h
      · have hcopies := (filter_eq_nil_iff_copies id order).1 (hread.symm.trans hnil)
        exact ⟨⟨hmany, hcopies⟩, Stop.panicked.inj (Except.error.inj hresult), hnil⟩
      · cases hresult
    · obtain ⟨hread, ⟨-, rfl⟩ | ⟨next, rest, hnext, -, -⟩⟩ := deleteListed_ends hnamed hwritten h
      · rfl
      · rw [hread, (filter_eq_nil_iff_copies id order).2 hcopies.2] at hnext
        cases hnext

/-- A session with two drafts and the given list of them. -/
def listingSession (order : List Text) : Session :=
  let draft (id : Text) : Draft := ⟨id, "Name", ⟨[], [], "Text"⟩, ⟨0, 0, 0⟩, ⟨0, 0, 0⟩⟩
  sessionOn [["data"], ["data", "bare"], ["data", "bare", "drafts"]]
    [(["data", "bare", "index.json"], (Index.mk order []).toJson.pretty),
      (["data", "bare", "active.json"], (Json.string "a").pretty),
      (["data", "bare", "drafts", "a.json"], (draft "a").toJson.pretty),
      (["data", "bare", "drafts", "b.json"], (draft "b").toJson.pretty)]

/-- The draft that is deleted is listed in front of another one and behind it. -/
theorem delete_outcome_twice :
    let store := Store.ofPreset "/data" barePreset
    let s := listingSession ["a", "b", "a"]
    let after := ((store.delete "a").run.run s).2
    (readIndex s store).order = ["a", "b", "a"] ∧ Ends (store.delete "a") s (.ok "b") after ∧
      (readIndex after store).order = ["b"] ∧
      ∀ fallback, readActive fallback after store = "b" := by
  intro store s after
  have hlist : (readIndex s store).order = ["a", "b", "a"] := by decide +kernel
  have hresult : ((store.delete "a").run.run s).1 = .ok "b" := by decide +kernel
  have hends : Ends (store.delete "a") s (.ok "b") after := Task.ends_of_fst_eq hresult
  obtain ⟨hread, -, -, hactive⟩ := (delete_outcome hends).1 "b" rfl
  refine ⟨hlist, hends, ?_, hactive⟩
  rw [hread, hlist]
  decide

/-- **Two entries for one draft.** The document is removed and an empty list is written, and then
the program panics. -/
theorem delete_copies_panics :
    let store := Store.ofPreset "/data" barePreset
    let s := listingSession ["a", "a"]
    let after := ((store.delete "a").run.run s).2
    OnlyCopies "a" (readIndex s store).order ∧
      ((store.delete "a").run.run s).1 = .error (.panicked (.outOfBounds 0 0)) ∧
      (readDraft s store "a").isSome = true ∧ readDraft after store "a" = none ∧
      (readIndex after store).order = [] := by
  decide +kernel

end MarkupDesk.Drafts
