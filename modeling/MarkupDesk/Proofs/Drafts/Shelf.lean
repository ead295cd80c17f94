/-
`Proofs/Drafts/Shelf.lean` -- drafts without files.

A `Shelf` is what the drafts of a preset are to their user: documents in an order, and the
one that was opened last. Every operation of a store is a small function on it, and none of
them has an index to keep. Calls are made on stores that were opened before and name drafts
by ids that were given out before; a `Ledger` keeps account of both, and of the clock and
the tokens of a call only what is new (`Call.Lawful`) is asked for.
-/
import MarkupDesk.Drafts.Store
import MarkupDesk.Proofs.Drafts.Document
import Mathlib.Data.List.Nodup

set_option autoImplicit false

namespace MarkupDesk.Drafts

open Calendar (Timestamp)

/-! ## 1. Shelves -/

/-- The drafts of a preset in their order, and the id of the one that was opened last. -/
structure Shelf where
  drafts : List Draft
  active : Option Text
  deriving DecidableEq, Repr

/-- When a call is made, and the number that a token is made of in it. -/
structure Moment where
  now : Timestamp
  token : Nat
  deriving DecidableEq, Repr

/-- The id of a draft that is made at the moment. -/
def Moment.draftId (moment : Moment) : Text :=
  "d_" ++ Text.ofInt moment.now.milliseconds ++
    '_' :: Text.hexPadded Session.tokenDigits (moment.token % Nat.pow 16 Session.tokenDigits)

/-- The draft that is made at the moment. -/
def Moment.draft (moment : Moment) (name : Text) (content : Content) : Draft :=
  ⟨moment.draftId, Text.trim name, content, moment.now, moment.now⟩

/-- The moment that a session stands at. -/
def Moment.of (s : Session) : Moment := ⟨s.now, s.nextToken⟩

namespace Shelf

/-- No drafts. -/
def empty : Shelf := ⟨[], none⟩

/-- The ids of the drafts, in their order. -/
def ids (shelf : Shelf) : List Text := shelf.drafts.map (·.id)

/-- The draft with an id. -/
def find? (shelf : Shelf) (id : Text) : Option Draft := shelf.drafts.find? fun draft => draft.id = id

/-- The line of the list of drafts for a draft. -/
def summary (draft : Draft) : Summary := ⟨draft.id, draft.name, some draft.updated⟩

/-- A new draft in front of the others, which is the active one. -/
def insertNew (shelf : Shelf) (moment : Moment) (name : Text) (content : Content) :
    Except StoreError Draft × Shelf :=
  if (Text.trim name).isEmpty then (.error .emptyName, shelf)
  else
    let draft := moment.draft name content
    (.ok draft, ⟨draft :: shelf.drafts, some draft.id⟩)

/-- The draft becomes the active one; where it is gone, the first one does. Nothing is found on an
empty shelf, which no store in use is. -/
def load (shelf : Shelf) (id : Text) : Except StoreError Draft × Shelf :=
  match (shelf.find? id).or shelf.drafts.head? with
  | some draft => (.ok draft, { shelf with active := some draft.id })
  | none => (.error (.notFound id), shelf)

/-- The draft in its place with another content and another time. -/
def autosave (shelf : Shelf) (moment : Moment) (id : Text) (content : Content) :
    Option Draft × Shelf :=
  match shelf.find? id with
  | none => (none, shelf)
  | some draft =>
    let saved := { draft with content := content, updated := moment.now }
    (some saved,
      { shelf with drafts := shelf.drafts.map fun other => if other.id = id then saved else other })

/-- The other drafts, the first of which becomes the active one; never no drafts. -/
def delete (shelf : Shelf) (id : Text) : Except StoreError Text × Shelf :=
  if shelf.drafts.length ≤ 1 then (.error .lastDraft, shelf)
  else if id ∉ shelf.ids then (.error (.notFound id), shelf)
  else
    let rest := shelf.drafts.filter fun draft => draft.id ≠ id
    match rest with
    | [] => (.error .lastDraft, shelf)
    | next :: _ => (.ok next.id, ⟨rest, some next.id⟩)

/-- The ids that were given out behind a call that makes the second shelf of the first one:
a draft that has come has a new id. -/
def issue (shelf after : Shelf) (moment : Moment) (issued : List Text) : List Text :=
  if shelf.drafts.length < after.drafts.length then moment.draftId :: issued else issued

/-- A shelf that has grown by a draft has given out the id of the moment. -/
theorem issue_cons (shelf : Shelf) (draft : Draft) (active : Option Text) (moment : Moment)
    (issued : List Text) :
    shelf.issue ⟨draft :: shelf.drafts, active⟩ moment issued = moment.draftId :: issued := by
  rw [issue, if_pos]
  exact Nat.lt_succ_self shelf.drafts.length

/-- A shelf that has not grown has given out nothing. -/
theorem issue_of_le {shelf after : Shelf} (h : after.drafts.length ≤ shelf.drafts.length)
    (moment : Moment) (issued : List Text) : shelf.issue after moment issued = issued := by
  rw [issue, if_neg (Nat.not_lt.2 h)]

/-- A name of blanks is refused, and the shelf stays as it is. -/
theorem insertNew_of_empty {name : Text} (h : (Text.trim name).isEmpty = true) (shelf : Shelf)
    (moment : Moment) (content : Content) :
    shelf.insertNew moment name content = (.error .emptyName, shelf) := by
  rw [insertNew, if_pos h]

/-- Any other name makes a draft, which goes to the front and is the active one. -/
theorem insertNew_of_nonempty {name : Text} (h : ¬ (Text.trim name).isEmpty = true) (shelf : Shelf)
    (moment : Moment) (content : Content) :
    shelf.insertNew moment name content = (.ok (moment.draft name content),
      ⟨moment.draft name content :: shelf.drafts, some (moment.draft name content).id⟩) := by
  rw [insertNew, if_neg h]

/-! ## 2. What is found on a shelf -/

variable {shelf : Shelf} {draft : Draft} {id : Text}

/-- A draft that is found under an id has that id. On files this is not so by itself: it has
to be kept by all that is written. -/
theorem id_of_find? (h : shelf.find? id = some draft) : draft.id = id := by
  simpa using List.find?_some h

/-- And it is on the shelf. -/
theorem mem_of_find? (h : shelf.find? id = some draft) : draft ∈ shelf.drafts :=
  List.mem_of_find?_eq_some h

/-- Under an id that is not on the shelf nothing is found. -/
theorem find?_eq_none_iff : shelf.find? id = none ↔ id ∉ shelf.ids := by
  rw [find?, List.find?_eq_none, ids, List.mem_map]
  constructor
  · rintro h ⟨draft, hdraft, heq⟩
    exact h draft hdraft (decide_eq_true heq)
  · intro h draft hdraft heq
    exact h ⟨draft, hdraft, of_decide_eq_true heq⟩

/-- Where ids stand once, a draft is found by its own. -/
theorem find?_of_mem (hdistinct : shelf.ids.Nodup) (h : draft ∈ shelf.drafts) :
    shelf.find? draft.id = some draft := by
  cases hfind : shelf.find? draft.id with
  | none => exact absurd (List.mem_map_of_mem h) (find?_eq_none_iff.1 hfind)
  | some other =>
    rw [List.inj_on_of_nodup_map hdistinct (mem_of_find? hfind) h (id_of_find? hfind)]

/-- Which draft is active does not count for what is found. -/
theorem find?_cons (draft : Draft) (drafts : List Draft) (active other : Option Text) (id : Text) :
    find? ⟨draft :: drafts, active⟩ id =
      if draft.id = id then some draft else find? ⟨drafts, other⟩ id := by
  rw [find?, List.find?_cons]
  by_cases h : draft.id = id
  · rw [if_pos h, decide_eq_true h]
  · rw [if_neg h, decide_eq_false h]
    rfl

/-- A draft that is written anew under its id leaves the ids and their order alone. -/
theorem ids_replace {saved : Draft} {active : Option Text} (hsaved : saved.id = id) :
    ids ⟨shelf.drafts.map fun draft => if draft.id = id then saved else draft, active⟩ =
      shelf.ids := by
  rw [ids, ids, List.map_map]
  apply List.map_congr_left
  intro draft _
  by_cases h : draft.id = id
  · simp [h, hsaved]
  · simp [h]

/-- Taking a draft away takes its id away, and leaves the others in their order. -/
theorem ids_filter (gone : Text) (shelf : Shelf) (active : Option Text) :
    ids ⟨shelf.drafts.filter fun draft => draft.id ≠ gone, active⟩ =
      shelf.ids.filter fun id => id ≠ gone := by
  rw [ids, ids, List.filter_map]
  rfl

/-- In the place of a draft there is another one with its id. -/
theorem find?_replace {saved : Draft} (hsaved : saved.id = id) (hmem : id ∈ shelf.ids)
    (active : Option Text) (other : Text) :
    find? ⟨shelf.drafts.map fun draft => if draft.id = id then saved else draft, active⟩ other =
      if id = other then some saved else shelf.find? other := by
  -- the new draft has the id of the old one, so a search passes it where it passed that
  have hkeep : ((fun draft : Draft => decide (draft.id = other)) ∘
      fun draft => if draft.id = id then saved else draft) =
        fun draft => decide (draft.id = other) := by
    funext draft
    by_cases h : draft.id = id
    · simp [h, hsaved]
    · simp [h]
  have hmap :
      find? ⟨shelf.drafts.map fun draft => if draft.id = id then saved else draft, active⟩ other =
      (shelf.find? other).map fun draft => if draft.id = id then saved else draft := by
    rw [find?, List.find?_map, hkeep, find?]
  rw [hmap]
  cases hfind : shelf.find? other with
  | none =>
    have hne : id ≠ other := fun heq => find?_eq_none_iff.1 hfind (heq ▸ hmem)
    rw [if_neg hne, Option.map_none]
  | some draft =>
    rw [Option.map_some, id_of_find? hfind]
    by_cases h : id = other
    · rw [if_pos h, if_pos h.symm]
    · rw [if_neg h, if_neg (Ne.symm h)]

/-- Behind a deletion the draft is not found, and every other one as before. -/
theorem find?_filter (gone id : Text) (active : Option Text) :
    find? ⟨shelf.drafts.filter fun draft => draft.id ≠ gone, active⟩ id =
      if gone = id then none else shelf.find? id := by
  rw [find?, List.find?_filter]
  by_cases h : gone = id
  · rw [if_pos h, List.find?_eq_none]
    rintro draft - heq
    simp [h] at heq
  · rw [if_neg h, find?]
    congr 1
    funext draft
    by_cases hid : draft.id = id
    · simp [hid, Ne.symm h]
    · simp [hid]

/-- Exactly one draft goes where ids stand once. -/
theorem length_filter (hdistinct : shelf.ids.Nodup) (hmem : id ∈ shelf.ids) :
    (shelf.drafts.filter fun draft => draft.id ≠ id).length = shelf.drafts.length - 1 := by
  have hids : (shelf.ids.filter fun other => other ≠ id) = shelf.ids.erase id := by
    rw [hdistinct.erase_eq_filter]
    apply List.filter_congr
    intro other _
    simp [bne, beq_eq_decide]
  have hlength := congrArg List.length hids
  rw [List.length_erase_of_mem hmem, ← ids_filter id shelf none, ids, ids, List.length_map,
    List.length_map] at hlength
  exact hlength

end Shelf

/-! ## 3. Calls -/

/-- An operation on drafts with what it is given. -/
inductive Call where
  | openStore
  | create (store : Store) (name : Text)
  | saveAs (store : Store) (name : Text) (content : Content)
  | load (store : Store) (id : Text)
  | loadActive (store : Store)
  | autosave (store : Store) (id : Text) (content : Content)
  | delete (store : Store) (id : Text)
  deriving DecidableEq, Repr

/-- What an operation on drafts ends with. -/
inductive Answer where
  | opened (store : Store)
  | draft (draft : Draft)
  | saved (draft : Option Draft)
  | next (id : Text)
  deriving DecidableEq, Repr

namespace Call

/-- The store that the call is made on. -/
def store? : Call → Option Store
  | openStore => none
  | create store _ => some store
  | saveAs store _ _ => some store
  | load store _ => some store
  | loadActive store => some store
  | autosave store _ _ => some store
  | delete store _ => some store

/-- The id that the call names a draft by. -/
def id? : Call → Option Text
  | load _ id => some id
  | autosave _ id _ => some id
  | delete _ id => some id
  | _ => none

/-- The call on the files. Deleting alone may panic. -/
def run (root : Path) (preset : Preset) : Call → Task (Stop StoreError) Answer
  | openStore => Task.certain (.opened <$> Store.openFor root preset)
  | create store name => Task.certain (.draft <$> store.create name)
  | saveAs store name content => Task.certain (.draft <$> store.saveAs name content)
  | load store id => Task.certain (.draft <$> store.load id)
  | loadActive store => Task.certain (.draft <$> store.loadActive)
  | autosave store id content => Task.certain (.saved <$> store.autosave id content)
  | delete store id => .next <$> store.delete id

/-- The call on a shelf. -/
def onShelf (root : Path) (preset : Preset) (moment : Moment) (shelf : Shelf) :
    Call → Except StoreError Answer × Shelf
  | openStore =>
    (.ok (.opened (Store.ofPreset root preset)),
      if shelf.drafts.isEmpty then
        (shelf.insertNew moment Store.starterName (Store.ofPreset root preset).defaults).2
      else shelf)
  | create store name =>
    let (result, shelf) := shelf.insertNew moment name store.defaults
    (result.map .draft, shelf)
  | saveAs _ name content =>
    let (result, shelf) := shelf.insertNew moment name content
    (result.map .draft, shelf)
  | load _ id =>
    let (result, shelf) := shelf.load id
    (result.map .draft, shelf)
  | loadActive _ =>
    let (result, shelf) := shelf.load (shelf.active.getD [])
    (result.map .draft, shelf)
  | autosave _ id content =>
    let (saved, shelf) := shelf.autosave moment id content
    (.ok (.saved saved), shelf)
  | delete _ id =>
    let (result, shelf) := shelf.delete id
    (result.map .next, shelf)

end Call

/-! ## 4. Ledgers -/

/-- A shelf with the stores that were opened and the ids that were given out so far. -/
structure Ledger where
  shelf : Shelf
  stores : List Store
  issued : List Text
  deriving DecidableEq, Repr

/-- The store that an answer brings. -/
def openedBy : Except StoreError Answer → Option Store
  | .ok (.opened store) => some store
  | _ => none

namespace Ledger

/-- Nothing has happened yet. -/
def start : Ledger := ⟨.empty, [], []⟩

/-- A call on the shelf, and the ledger behind it. -/
def call (root : Path) (preset : Preset) (ledger : Ledger) (moment : Moment) (call : Call) :
    Except StoreError Answer × Ledger :=
  let (answer, shelf) := call.onShelf root preset moment ledger.shelf
  (answer,
    { shelf := shelf
      stores := (openedBy answer).toList ++ ledger.stores
      issued := ledger.shelf.issue shelf moment ledger.issued })

end Ledger

/-- What is asked of a call: the store was opened before and the id was given out before, an
id that is made in it is a new one, and the time of the clock is read back from its text. -/
structure Call.Lawful (root : Path) (preset : Preset) (ledger : Ledger) (moment : Moment)
    (call : Call) : Prop where
  opened : ∀ store ∈ call.store?, store ∈ ledger.stores
  given : ∀ id ∈ call.id?, id ∈ ledger.issued
  fresh : (ledger.call root preset moment call).2.issued.Nodup
  clock : moment.now.ReadsBack

instance (root : Path) (preset : Preset) (ledger : Ledger) (moment : Moment) (call : Call) :
    Decidable (call.Lawful root preset ledger moment) :=
  decidable_of_iff ((∀ store ∈ call.store?, store ∈ ledger.stores) ∧
      (∀ id ∈ call.id?, id ∈ ledger.issued) ∧
      (ledger.call root preset moment call).2.issued.Nodup ∧ moment.now.ReadsBack)
    ⟨fun ⟨opened, given, fresh, clock⟩ => ⟨opened, given, fresh, clock⟩,
      fun h => ⟨h.opened, h.given, h.fresh, h.clock⟩⟩

/-! ## 5. Scripts -/

/-- Calls, one after the other, each at its moment. -/
abbrev Script := List (Moment × Call)

/-- Every call is lawful when it is made. -/
def Script.Lawful (root : Path) (preset : Preset) : Ledger → Script → Prop
  | _, [] => True
  | ledger, (moment, call) :: script =>
    call.Lawful root preset ledger moment ∧
      Script.Lawful root preset (ledger.call root preset moment call).2 script

instance Script.decidableLawful (root : Path) (preset : Preset) :
    ∀ (ledger : Ledger) (script : Script), Decidable (script.Lawful root preset ledger)
  | _, [] => .isTrue trivial
  | ledger, (moment, call) :: script =>
    have : Decidable (Script.Lawful root preset (ledger.call root preset moment call).2 script) :=
      Script.decidableLawful root preset _ script
    inferInstanceAs (Decidable (_ ∧ _))

/-- The answers of the calls on the files, each with the session behind it. Behind a panic no more
calls are made. -/
def Script.trace (root : Path) (preset : Preset) :
    Session → Script → List (Except (Stop StoreError) Answer × Session)
  | _, [] => []
  | s, (moment, call) :: script =>
    let step := (call.run root preset).run.run { s with now := moment.now, nextToken := moment.token }
    step :: if Stop.isPanic step.1 then [] else Script.trace root preset step.2 script

/-- The answers of the calls on the shelf, each with the ledger behind it. -/
def Script.account (root : Path) (preset : Preset) :
    Ledger → Script → List (Except StoreError Answer × Ledger)
  | _, [] => []
  | ledger, (moment, call) :: script =>
    let step := ledger.call root preset moment call
    step :: Script.account root preset step.2 script

end MarkupDesk.Drafts
