/-
`Proofs/Drafts/Refinement.lean` -- stores are shelves.

However many handles of a preset there are and whatever is called on them, in whatever
order: the answers, and all that can be looked at after each call, are those of the one
shelf that the calls are made on in thought. The files say the same: of all ids that were
ever given out exactly those on the shelf have a document, which holds the draft, the index
tells of the shelf, and the active file of its active draft.

One call keeps the files and the ledger together (`call_ends`), and a script of calls does
by induction (`trace_refines_account`).
-/
import MarkupDesk.Proofs.Drafts.Operations

set_option autoImplicit false

namespace MarkupDesk.Drafts

open MarkupDesk.Task (Ends)

variable {s after : Session} {root : Path} {preset : Preset} {store : Store} {ledger : Ledger}
  {moment : Moment} {call : Call}

/-! ## 1. Looking -/

/-- What a store shows is what the ledger says, and looking changes nothing. -/
structure Shows (s : Session) (store : Store) (ledger : Ledger) : Prop where
  list : store.list.run s = (ledger.shelf.drafts.map Shelf.summary, s)
  get? : ∀ id ∈ ledger.issued, (store.get? id).run s = (ledger.shelf.find? id, s)
  activeId : store.activeId.run s = (ledger.shelf.active, s)
  index : ∃ index, Tells index ledger.shelf ∧ entryOf s store .index = some (document index.toJson)
  documents : ∀ id ∈ ledger.issued,
    entryOf s store (.draft id) = (ledger.shelf.find? id).map fun draft => document draft.toJson
  active : entryOf s store .active = ledger.shelf.active.map fun id => document (.string id)

/-- Where the files keep a shelf, all that can be looked at is what the shelf shows: the list,
the active id, every draft that was ever given out, and nothing under the others. -/
theorem Keeps.shows (h : Keeps s store ledger.shelf ledger.issued) : Shows s store ledger where
  list := by
    have hrun : store.list.run s = ((readIndex s store).summaries, s) := rfl
    rw [hrun, h.tells.summaries_eq h.sound]
  get? id hid := by
    rw [← h.readDraft_eq hid]
    rfl
  activeId := activeId_run h
  index := ⟨readIndex s store, h.tells, h.index⟩
  documents := h.documents
  active := by
    obtain ⟨id, -, hactive, hentry⟩ := h.active
    rw [hactive, hentry]
    rfl

/-! ## 2. One call -/

/-- The ledger goes with the files: either nothing has happened yet, or the files of the only
store there is hold the shelf. -/
structure Linked (root : Path) (preset : Preset) (s : Session) (ledger : Ledger) : Prop where
  stores : ∀ store ∈ ledger.stores, store = Store.ofPreset root preset
  files : (ledger = .start ∧ s.disk.hasEntry s.cwd (Store.ofPreset root preset).indexPath = false) ∨
    Keeps s (Store.ofPreset root preset) ledger.shelf ledger.issued

/-- An id that is made has to be a new one if a draft is made. -/
theorem draftId_notMem {shelf : Shelf} {name : Text} {content : Content} {issued : List Text}
    (h : (shelf.issue (shelf.insertNew moment name content).2 moment issued).Nodup)
    (hname : ¬ (Text.trim name).isEmpty = true) : moment.draftId ∉ issued := by
  rw [Shelf.insertNew_of_nonempty hname, Shelf.issue_cons] at h
  exact (List.nodup_cons.1 h).1

/-- Opening a draft adds none to the shelf. Which ids were given out is read off the length of
the shelf, so each operation has to say whether it adds. -/
theorem length_load_le (shelf : Shelf) (id : Text) :
    (shelf.load id).2.drafts.length ≤ shelf.drafts.length := by
  unfold Shelf.load
  split <;> exact Nat.le_refl _

/-- Saving a draft adds none; neither does it take one away, but only this is asked for. -/
theorem length_autosave_le (shelf : Shelf) (id : Text) (content : Content) :
    (shelf.autosave moment id content).2.drafts.length ≤ shelf.drafts.length := by
  unfold Shelf.autosave
  split
  · exact Nat.le_refl _
  · exact Nat.le_of_eq (List.length_map _)

/-- Deleting adds none. -/
theorem length_delete_le (shelf : Shelf) (id : Text) :
    (shelf.delete id).2.drafts.length ≤ shelf.drafts.length := by
  unfold Shelf.delete
  simp only
  split
  · exact Nat.le_refl _
  split
  · exact Nat.le_refl _
  split
  · exact Nat.le_refl _
  · exact List.length_filter_le _ _

/-- **The first opening.** -/
theorem openFor_first {result : Except StoreError Store}
    (hentry : s.disk.hasEntry s.cwd (Store.ofPreset root preset).indexPath = false)
    (hclock : s.now.ReadsBack) (hwritten : Written result)
    (hends : Ends (Store.openFor root preset) s result after) :
    result = .ok (Store.ofPreset root preset) ∧
      Keeps after (Store.ofPreset root preset) (Shelf.empty.insertNew (Moment.of s) Store.starterName
        (Store.ofPreset root preset).defaults).2 [(Moment.of s).draftId] := by
  have hnamed := named_ofPreset root preset
  rcases Task.ends_bind.1 hends with ⟨problem, hprepare, rfl⟩ | ⟨_, between, hprepare, hends⟩
  · cases (prepare_first hnamed hentry hclock hwritten.error hprepare).1
  · obtain ⟨rfl, rfl⟩ := Task.ends_pure.1 hends
    have hprepared : Written (.ok () : Except StoreError Unit) := trivial
    exact ⟨rfl, (prepare_first hnamed hentry hclock hprepared hprepare).2⟩

/-- Another opening. -/
theorem openFor_again {result : Except StoreError Store} {shelf : Shelf} {issued : List Text}
    (h : Keeps s (Store.ofPreset root preset) shelf issued)
    (hends : Ends (Store.openFor root preset) s result after) :
    result = .ok (Store.ofPreset root preset) ∧ after = s := by
  rcases Task.ends_bind.1 hends with ⟨problem, hprepare, rfl⟩ | ⟨_, between, hprepare, hends⟩
  · cases (prepare_again h hprepare).1
  · obtain ⟨rfl, rfl⟩ := Task.ends_pure.1 hends
    exact ⟨rfl, (prepare_again h hprepare).2⟩

/-- **A call on files in use.** -/
theorem Keeps.call_ends {result : Except (Stop StoreError) Answer}
    (h : Keeps s (Store.ofPreset root preset) ledger.shelf ledger.issued)
    (hstores : ∀ store ∈ ledger.stores, store = Store.ofPreset root preset)
    (hlawful : call.Lawful root preset ledger (Moment.of s)) (hwritten : AllWritten result)
    (hends : Ends (call.run root preset) s result after) :
    result = (ledger.call root preset (Moment.of s) call).1.mapError .failed ∧
      Keeps after (Store.ofPreset root preset) (ledger.call root preset (Moment.of s) call).2.shelf
        (ledger.call root preset (Moment.of s) call).2.issued := by
  have hnamed := named_ofPreset root preset
  have hclock : s.now.ReadsBack := hlawful.clock
  -- in each case the lemma of the operation gives the answer and the files; what is left is
  -- that only new drafts give out ids
  cases call with
  | openStore =>
    obtain ⟨outcome, hopen, rfl⟩ := Task.ends_certain_map.1 hends
    obtain ⟨rfl, rfl⟩ := openFor_again h hopen
    obtain ⟨first, rest, hdrafts, -⟩ := h.exists_first
    have hempty : ¬ ledger.shelf.drafts.isEmpty = true := by simp [hdrafts]
    rw [Ledger.call, Call.onShelf, if_neg hempty]
    rw [← Shelf.issue_of_le (Nat.le_refl ledger.shelf.drafts.length) (Moment.of after)
      ledger.issued] at h
    exact ⟨rfl, h⟩
  | create store name =>
    obtain ⟨outcome, hcreate, rfl⟩ := Task.ends_certain_map.1 hends
    obtain rfl := hstores store (hlawful.opened store rfl)
    obtain ⟨rfl, hkeeps⟩ := saveAs_ends h hnamed (draftId_notMem hlawful.fresh) hclock
      (written_map (allWritten_certain.1 hwritten)) hcreate
    exact ⟨rfl, hkeeps⟩
  | saveAs store name content =>
    obtain ⟨outcome, hsave, rfl⟩ := Task.ends_certain_map.1 hends
    obtain rfl := hstores store (hlawful.opened store rfl)
    obtain ⟨rfl, hkeeps⟩ := saveAs_ends h hnamed (draftId_notMem hlawful.fresh) hclock
      (written_map (allWritten_certain.1 hwritten)) hsave
    exact ⟨rfl, hkeeps⟩
  | load store id =>
    obtain ⟨outcome, hload, rfl⟩ := Task.ends_certain_map.1 hends
    obtain rfl := hstores store (hlawful.opened store rfl)
    obtain ⟨rfl, hkeeps⟩ := load_ends h hnamed (hlawful.given id rfl) (written_map (allWritten_certain.1 hwritten)) hload
    rw [← Shelf.issue_of_le (length_load_le ledger.shelf id) (Moment.of s) ledger.issued] at hkeeps
    exact ⟨rfl, hkeeps⟩
  | loadActive store =>
    obtain ⟨outcome, hload, rfl⟩ := Task.ends_certain_map.1 hends
    obtain rfl := hstores store (hlawful.opened store rfl)
    obtain ⟨rfl, hkeeps⟩ := loadActive_ends h hnamed (written_map (allWritten_certain.1 hwritten)) hload
    rw [← Shelf.issue_of_le (length_load_le ledger.shelf _) (Moment.of s) ledger.issued] at hkeeps
    exact ⟨rfl, hkeeps⟩
  | autosave store id content =>
    obtain ⟨outcome, hsave, rfl⟩ := Task.ends_certain_map.1 hends
    obtain rfl := hstores store (hlawful.opened store rfl)
    obtain ⟨rfl, hkeeps⟩ := autosave_ends h hnamed (hlawful.given id rfl) hclock
      (written_map (allWritten_certain.1 hwritten)) hsave
    rw [← Shelf.issue_of_le (length_autosave_le ledger.shelf id content) (Moment.of s)
      ledger.issued] at hkeeps
    exact ⟨rfl, hkeeps⟩
  | delete store id =>
    obtain ⟨outcome, hdelete, rfl⟩ := Task.ends_map.1 hends
    obtain rfl := hstores store (hlawful.opened store rfl)
    obtain ⟨rfl, hkeeps⟩ :=
      delete_ends h hnamed (hlawful.given id rfl) (allWritten_map hwritten) hdelete
    rw [← Shelf.issue_of_le (length_delete_le ledger.shelf id) (Moment.of s) ledger.issued] at hkeeps
    exact ⟨Task.map_mapError _ _ _, hkeeps⟩

/-- **One call.** -/
theorem Linked.call_ends {result : Except (Stop StoreError) Answer} (h : Linked root preset s ledger)
    (hlawful : call.Lawful root preset ledger (Moment.of s)) (hwritten : AllWritten result)
    (hends : Ends (call.run root preset) s result after) :
    result = (ledger.call root preset (Moment.of s) call).1.mapError .failed ∧
      Keeps after (Store.ofPreset root preset) (ledger.call root preset (Moment.of s) call).2.shelf
        (ledger.call root preset (Moment.of s) call).2.issued := by
  rcases h.files with ⟨rfl, hentry⟩ | hkeeps
  · -- no handle is there to be called yet
    cases call with
    | openStore =>
      obtain ⟨outcome, hopen, rfl⟩ := Task.ends_certain_map.1 hends
      obtain ⟨rfl, hkeeps⟩ :=
        openFor_first hentry hlawful.clock (written_map (allWritten_certain.1 hwritten)) hopen
      exact ⟨rfl, hkeeps⟩
    | _ => cases hlawful.opened _ rfl
  · exact hkeeps.call_ends h.stores hlawful hwritten hends

/-- An answer that opens no store is no reason to enter one into the ledger. -/
theorem openedBy_map_ne {α : Type} {f : α → Answer} (hf : ∀ x, openedBy (.ok (f x)) = none)
    (result : Except StoreError α) : openedBy (result.map f) ≠ some store := by
  cases result with
  | ok x =>
    intro heq
    cases (hf x).symm.trans heq
  | error problem =>
    intro heq
    cases heq

/-- A store that is opened is that of the preset. -/
theorem Call.eq_of_opened {shelf : Shelf}
    (h : openedBy (call.onShelf root preset moment shelf).1 = some store) :
    store = Store.ofPreset root preset := by
  cases call with
  | openStore => exact (Option.some.inj h).symm
  | create => exact absurd h (openedBy_map_ne (fun _ => rfl) _)
  | saveAs => exact absurd h (openedBy_map_ne (fun _ => rfl) _)
  | load => exact absurd h (openedBy_map_ne (fun _ => rfl) _)
  | loadActive => exact absurd h (openedBy_map_ne (fun _ => rfl) _)
  | autosave => cases h
  | delete => exact absurd h (openedBy_map_ne (fun _ => rfl) _)

/-- Every handle on the ledger behind a call is that of the preset. -/
theorem Linked.eq_of_mem_stores (h : Linked root preset s ledger)
    (hstore : store ∈ (ledger.call root preset moment call).2.stores) :
    store = Store.ofPreset root preset := by
  rcases List.mem_append.1 hstore with hopened | hstore
  · exact Call.eq_of_opened (Option.mem_toList.1 hopened)
  · exact h.stores store hstore

/-! ## 3. Scripts of calls -/

/-- The call on the files and the call on the shelf agree: the answers are the same, and so is
what every handle shows afterwards. A shelf has no panics, so the call on the files is none. -/
def Agrees (step : Except (Stop StoreError) Answer × Session)
    (entry : Except StoreError Answer × Ledger) : Prop :=
  step.1 = entry.1.mapError .failed ∧ ∀ store ∈ entry.2.stores, Shows step.2 store entry.2

/-- The account knows no panics: what it ends with is a result or an error. -/
theorem isPanic_certain {α : Type} (outcome : Except StoreError α) :
    Stop.isPanic (outcome.mapError .failed) = false := by
  cases outcome <;> rfl

/-- The session when a call is made at the moment. -/
theorem Linked.at_moment (h : Linked root preset s ledger) (moment : Moment) :
    Linked root preset { s with now := moment.now, nextToken := moment.token } ledger := by
  refine ⟨h.stores, ?_⟩
  rcases h.files with ⟨hstart, hentry⟩ | hkeeps
  · exact .inl ⟨hstart, hentry⟩
  · exact .inr (hkeeps.congr rfl rfl)

/-- The induction is on the script, and what goes through it is `Linked`. -/
theorem Linked.agrees {script : Script} (h : Linked root preset s ledger)
    (hlawful : script.Lawful root preset ledger)
    (hwritten : ∀ step ∈ script.trace root preset s, AllWritten step.1) :
    List.Forall₂ Agrees (script.trace root preset s) (script.account root preset ledger) := by
  induction script generalizing s ledger with
  | nil => exact .nil
  | cons made script ih =>
    obtain ⟨moment, call⟩ := made
    obtain ⟨hcall, hscript⟩ := hlawful
    -- the head of the trace is what the call ends with
    have hends : Ends (call.run root preset)
        { s with now := moment.now, nextToken := moment.token } _ _ := rfl
    obtain ⟨hanswer, hkeeps⟩ :=
      (h.at_moment moment).call_ends hcall (hwritten _ List.mem_cons_self) hends
    have hstores : ∀ store ∈ (ledger.call root preset moment call).2.stores,
        store = Store.ofPreset root preset := fun _ hstore => h.eq_of_mem_stores hstore
    -- so the call is no panic, and the script goes on
    have hgoesOn : ¬ Stop.isPanic ((call.run root preset).run.run
        { s with now := moment.now, nextToken := moment.token }).1 = true := by
      rw [hanswer, isPanic_certain]
      exact Bool.false_ne_true
    rw [Script.trace, if_neg hgoesOn] at hwritten ⊢
    refine .cons ⟨hanswer, fun store hstore => ?_⟩ ?_
    · obtain rfl := hstores store hstore
      exact hkeeps.shows
    · exact ih ⟨hstores, .inr hkeeps⟩ hscript fun step hstep =>
        hwritten step (List.mem_cons_of_mem _ hstep)

/-- **Stores are shelves.** Let there be no index yet, let every call name a handle that was
opened before and an id that was given out before, let every id that is made be a new one and
every time of the clock be read back from its text, and let no file fail to be written. Then
the answers of all calls are those of the shelf, and so is what every handle shows, and what
the files hold, behind each of them. None of the calls panics: a panic would be the end of the
trace, and there is a step in it for every call. -/
theorem trace_refines_account {script : Script}
    (hempty : s.disk.hasEntry s.cwd (Store.ofPreset root preset).indexPath = false)
    (hlawful : script.Lawful root preset .start)
    (hwritten : ∀ step ∈ script.trace root preset s, AllWritten step.1) :
    List.Forall₂ Agrees (script.trace root preset s) (script.account root preset .start) := by
  have hstart : Linked root preset s .start :=
    ⟨fun store hstore => absurd hstore List.not_mem_nil, .inl ⟨rfl, hempty⟩⟩
  exact hstart.agrees hlawful hwritten

/-! ## 4. A run -/

/-- A session on a disk that holds nothing. -/
def emptySession : Session where
  disk := .empty
  cwd := []
  configHome := "/config"
  dataHome := "/data"
  editor := none
  now := ⟨0, 0, 0⟩
  ticks := 0
  nextToken := 0

/-- A preset with nothing in it but its id. -/
def barePreset : Preset where
  id := "bare"
  name := none
  path := none
  template := []
  rules := default
  reference := []
  title := none
  content := none

/-- A second draft is made and deleted; when it is loaded all the same, the first one is opened. -/
def recoveringScript : Script :=
  let moment (k : Nat) : Moment := ⟨⟨20000, k, 0⟩, k⟩
  let store := Store.ofPreset "/data" barePreset
  let first := (moment 0).draftId
  let second := (moment 1).draftId
  [(moment 0, .openStore), (moment 1, .create store " Notes "),
    (moment 2, .autosave store first ⟨"Title", "page.html", "Text"⟩), (moment 3, .delete store second),
    (moment 4, .openStore), (moment 5, .load store second)]

/-- The script is lawful, and nothing in it fails to be written. -/
theorem trace_refines_account_recovering :
    List.Forall₂ Agrees (recoveringScript.trace "/data" barePreset emptySession)
      (recoveringScript.account "/data" barePreset .start) := by
  have hempty : emptySession.disk.hasEntry emptySession.cwd
      (Store.ofPreset "/data" barePreset).indexPath = false := by decide +kernel
  have hlawful : recoveringScript.Lawful "/data" barePreset .start := by decide +kernel
  have hwritten : ∀ step ∈ recoveringScript.trace "/data" barePreset emptySession,
      AllWritten step.1 := by
    decide +kernel
  exact trace_refines_account hempty hlawful hwritten

end MarkupDesk.Drafts
