/-
`Proofs/Editor/Errand.lean` -- what the editor does with files.

An errand is an operation of the editor on files, and it has two parts at most. The content is
saved if it was changed (`Errand.begin`); how that comes out is a case of `Saved`. Then another
draft is fetched (`Errand.fetch?`), which is shown if there is one (`run_of_fetch`), or the
drafts are left alone (`run_of_no_fetch`). No errand does anything else that counts. One errand,
that which deletes, may panic while it fetches the draft that is to take the place of the deleted
one; then nothing is shown and nothing is said, and the program has ended.

That is told with the sessions, for what is said of the drafts. What is said of the screen takes
less: which parts of the editor an errand may change at all (`Errand.ran`).
-/
import MarkupDesk.Editor.Command
import MarkupDesk.Proofs.Drafts.Quiet

set_option autoImplicit false

namespace MarkupDesk.Editor

open Drafts (Content Draft Quiet Store StoreError chains_quiet)
open Files (Disk Location)
open MarkupDesk.Task (Ends)

/-! ## 1. Errands -/

/-- An operation on files. -/
inductive Errand where
  | save
  | openDraft (id : Text)
  | newDraft (name : Text)
  | saveAs (name : Text)
  /-- Deletes the open draft, behind a question. -/
  | delete
  | preset (id : Text)
  | list
  | page (directory : Path)
  | theme
  | reference
  deriving DecidableEq, Repr

/-- The operation on the editor. -/
def Errand.run : Errand → Editor → StateM Session Editor
  | save => saveNow
  | openDraft id => Editor.openDraft id
  | newDraft name => Editor.newDraft name
  | saveAs name => Editor.saveAs name
  | delete => deleteCurrent
  | preset id => switchPreset id
  | list => openPicker
  | page directory => writePage directory
  | theme => toggleTheme
  | reference => toggleReference

/-- The part of the editor that has to do with drafts. Whether the program has panicked belongs to
it, because nothing but an errand can panic. -/
structure Work where
  settings : Settings
  catalog : Catalog
  preset : Preset
  store : Store
  draft : Draft
  content : Content
  dirty : Bool
  mark : SaveMark
  deadline : Option Nat
  panicked : Option Panic

/-- The part of the editor that has to do with drafts. -/
def work (e : Editor) : Work :=
  ⟨e.settings, e.catalog, e.preset, e.store, e.draft, e.content, e.dirty, e.mark, e.deadline,
    e.panicked⟩

/-- A draft that was fetched, with its preset and its store. -/
structure Opened where
  preset : Preset
  store : Store
  draft : Draft

/-- The draft is shown in the place of the one that was open. -/
def Work.shown (opened : Opened) (w : Work) : Work :=
  { w with
    preset := opened.preset
    store := opened.store
    draft := opened.draft
    content := opened.draft.content
    dirty := false
    mark := .idle
    deadline := none }

/-- Is the content saved before anything else is done? -/
def Errand.saves (w : Work) : Errand → Bool
  | save => true
  | openDraft _ => true
  | newDraft _ => true
  | preset id => (w.catalog.get? id).isSome
  | _ => false

/-- The editor and the session behind the save, if there is one. -/
def Errand.begin (errand : Errand) (e : Editor) (s : Session) : Editor × Session :=
  if errand.saves e.work then e.saveNow.run s else (e, s)

/-- How another draft is fetched, if one is to be opened. Only deleting may panic. -/
def Errand.fetch? (e : Editor) : Errand → Option (Task (Stop StoreError) Opened)
  | openDraft id => some (Opened.mk e.preset e.store <$> Task.certain (e.store.load id))
  | newDraft name => some (Opened.mk e.preset e.store <$> Task.certain (e.store.create name))
  | saveAs name =>
    some (Opened.mk e.preset e.store <$> Task.certain (e.store.saveAs name e.content))
  | delete => some (Opened.mk e.preset e.store <$> do
    Task.certain (e.store.load (← e.store.delete e.draft.id)))
  | preset id => (e.catalog.get? id).map fun preset =>
    (fun opened => ⟨preset, opened.1, opened.2⟩) <$> Task.certain (e.openStore preset)
  | _ => none

variable {e e' : Editor} {s s' : Session} {errand : Errand}

/-! ## 2. Saving -/

/-- How a save comes out: there was nothing to save, the draft was written, or it was not. -/
inductive Saved (e : Editor) (s : Session) : Editor → Session → Prop where
  | clean {e' : Editor} (hclean : e.dirty = false)
    (hwork : e'.work = { e.work with deadline := none }) : Saved e s e' s
  | written {e' : Editor} {s' : Session} {draft : Draft} (hdirty : e.dirty = true)
    (hsave : Ends (e.store.autosave e.draft.id e.content) s (.ok (some draft)) s')
    (hwork : e'.work =
      { e.work with draft := draft, dirty := false, mark := .saved draft.updated, deadline := none }) :
    Saved e s e' s'
  | failed {e' : Editor} {s' : Session} {result : Except StoreError (Option Draft)}
    (hdirty : e.dirty = true) (hsave : Ends (e.store.autosave e.draft.id e.content) s result s')
    (hresult : ∀ draft, result ≠ .ok (some draft))
    (hwork : e'.work = { e.work with deadline := none }) : Saved e s e' s'

/-- **Saving.** -/
theorem saved_saveNow (e : Editor) (s : Session) :
    Saved e s (e.saveNow.run s).1 (e.saveNow.run s).2 := by
  unfold saveNow
  by_cases hdirty : e.dirty = true
  · have hcondition : ¬ (!e.dirty) = true := by simp [hdirty]
    simp only [if_neg hcondition]
    rw [Session.run_bind]
    cases hsave : (e.store.autosave e.draft.id e.content).run.run s with
    | mk result s' =>
      cases result with
      | error cause => exact .failed hdirty hsave (fun draft heq => by cases heq) rfl
      | ok found =>
        cases found with
        -- the draft has gone from the disk, which counts as a failure
        | none => exact .failed hdirty hsave (fun draft heq => by cases heq) rfl
        | some draft => exact .written hdirty hsave rfl
  · have hclean : e.dirty = false := Bool.eq_false_iff.2 hdirty
    have hcondition : (!e.dirty) = true := by simp [hclean]
    simp only [if_pos hcondition]
    exact .clean hclean rfl

/-- A save changes the draft, what is known of it, and the notice; everything else is left
alone. -/
theorem exists_saveNow_eq (e : Editor) (s : Session) :
    ∃ draft dirty mark notice, (e.saveNow.run s).1 =
      { e with draft := draft, dirty := dirty, mark := mark, notice := notice, deadline := none } := by
  unfold saveNow
  simp only
  split
  · exact ⟨_, _, _, _, rfl⟩
  · rw [Session.run_bind]
    split <;> exact ⟨_, _, _, _, rfl⟩

/-- What a save leaves alone. -/
theorem Saved.work_eq (h : Saved e s e' s') :
    ∃ draft dirty mark, e'.work =
      { e.work with draft := draft, dirty := dirty, mark := mark, deadline := none } := by
  cases h with
  | clean _ hwork => exact ⟨_, _, _, hwork⟩
  | written _ _ hwork => exact ⟨_, _, _, hwork⟩
  | failed _ _ _ hwork => exact ⟨_, _, _, hwork⟩

/-- The session behind a save. -/
def Work.savedSession (s : Session) (w : Work) : Session :=
  if w.dirty then ((w.store.autosave w.draft.id w.content).run.run s).2 else s

/-- The session behind a save is that of saving the draft, whatever the save comes out as. -/
theorem Saved.session_eq (h : Saved e s e' s') : s' = e.work.savedSession s := by
  have hautosave : ∀ {result : Except StoreError (Option Draft)}, e.work.dirty = true →
      Ends (e.work.store.autosave e.work.draft.id e.work.content) s result s' →
        s' = e.work.savedSession s := by
    intro result hdirty hends
    rw [Work.savedSession, if_pos hdirty, hends]
  cases h with
  | clean hclean =>
    have hclean : ¬ e.work.dirty = true := Bool.eq_false_iff.1 hclean
    rw [Work.savedSession, if_neg hclean]
  | written hdirty hsave => exact hautosave hdirty hsave
  | failed hdirty hsave => exact hautosave hdirty hsave

/-- No id is made for a save. -/
theorem Saved.onlyDisk (h : Saved e s e' s') : OnlyDisk s s' := by
  cases h with
  | clean => exact chains_onlyDisk.refl s
  | written _ hsave => exact (Drafts.autosave_onlyDisk _ _ _).ends rfl hsave
  | failed _ hsave => exact (Drafts.autosave_onlyDisk _ _ _).ends rfl hsave

/-- The save of a changed content gives no draft. -/
def Work.SaveFails (s : Session) (w : Work) : Prop :=
  w.dirty = true ∧ ∀ draft after,
    ¬ Ends (w.store.autosave w.draft.id w.content) s (.ok (some draft)) after

/-- **A save leaves the content changed** exactly if it fails. -/
theorem Saved.dirty_iff (h : Saved e s e' s') : e'.work.dirty = true ↔ e.work.SaveFails s := by
  cases h with
  | clean hclean hwork =>
    rw [hwork]
    exact ⟨fun hdirty => absurd (hclean.symm.trans hdirty) Bool.noConfusion, fun hfails => hfails.1⟩
  | written _ hsave hwork =>
    rw [hwork]
    exact ⟨fun hdirty => absurd hdirty Bool.noConfusion, fun hfails => absurd hsave (hfails.2 _ _)⟩
  | failed hdirty hsave hresult hwork =>
    rw [hwork]
    refine ⟨fun _ => ⟨hdirty, fun draft after hends => ?_⟩, fun _ => hdirty⟩
    exact hresult draft (Prod.mk.inj (hsave.symm.trans hends)).1

/-- The part of an errand before a draft is fetched. -/
theorem Errand.begin_cases (errand : Errand) (e : Editor) (s : Session) :
    (errand.saves e.work = true ∧ Saved e s (errand.begin e s).1 (errand.begin e s).2) ∨
      errand.saves e.work = false ∧ errand.begin e s = (e, s) := by
  unfold Errand.begin
  cases hsaves : errand.saves e.work with
  | true => exact .inl ⟨rfl, saved_saveNow e s⟩
  | false => exact .inr ⟨rfl, rfl⟩

/-- The session behind the save, if there is one. -/
def Errand.begunSession (errand : Errand) (s : Session) (w : Work) : Session :=
  if errand.saves w then w.savedSession s else s

/-- So the session behind the save of an errand can be said without the editor: the files of
the open draft are all that it depends on. -/
theorem Errand.begin_session (errand : Errand) (e : Editor) (s : Session) :
    (errand.begin e s).2 = errand.begunSession s e.work := by
  rcases errand.begin_cases e s with ⟨hsaves, hsaved⟩ | ⟨hsaves, hbegin⟩
  · rw [hsaved.session_eq, begunSession, hsaves, if_pos rfl]
  · rw [hbegin, begunSession, hsaves]
    rfl

/-! ## 3. Fetching -/

/-- The draft that was fetched is shown, or it is said why there is none, or there was a panic and
nothing else changes but that. -/
inductive Fetched (e e' : Editor) : Except (Stop StoreError) Opened → Prop where
  | shown {opened : Opened} (hwork : e'.work = e.work.shown opened) : Fetched e e' (.ok opened)
  | failed {cause : StoreError} (hwork : e'.work = e.work)
    (hnotice : e'.notice = some (.draftsFailed cause)) : Fetched e e' (.error (.failed cause))
  | panicked {panic : Panic} (hwork : e'.work = { e.work with panicked := some panic }) :
    Fetched e e' (.error (.panicked panic))

/-- Showing a result and saying what became of it is one way to have fetched. -/
theorem fetched_showResult (result : Except StoreError Draft) (done : Text → Notice) (e : Editor) :
    Fetched e (e.showResult result done)
      ((result.mapError .failed).map (Opened.mk e.preset e.store)) := by
  cases result with
  | ok draft => exact .shown rfl
  | error cause => exact .failed rfl rfl

/-- Opening another draft, as a save and a fetch. Each of these operations is taken apart
once, here, into the two parts that an errand has. -/
theorem openDraft_run (id : Text) (e : Editor) (s : Session) :
    (e.openDraft id).run s =
      ((e.saveNow.run s).1.showResult
          (((e.saveNow.run s).1.store.load id).run.run (e.saveNow.run s).2).1 .opened,
        (((e.saveNow.run s).1.store.load id).run.run (e.saveNow.run s).2).2) := by
  unfold openDraft
  rw [Session.run_bind, Session.run_bind, Session.run_pure]

/-- Making a draft saves the open one first, too. -/
theorem newDraft_run (name : Text) (e : Editor) (s : Session) :
    (e.newDraft name).run s =
      ((e.saveNow.run s).1.showResult
          (((e.saveNow.run s).1.store.create name).run.run (e.saveNow.run s).2).1 .created,
        (((e.saveNow.run s).1.store.create name).run.run (e.saveNow.run s).2).2) := by
  unfold newDraft
  rw [Session.run_bind, Session.run_bind, Session.run_pure]

/-- Saving under a new name does not: the content goes into the new draft, and the old one
keeps what it had. -/
theorem saveAs_run (name : Text) (e : Editor) (s : Session) :
    (e.saveAs name).run s =
      (e.showResult ((e.store.saveAs name e.content).run.run s).1 .savedAs,
        ((e.store.saveAs name e.content).run.run s).2) := by
  unfold saveAs
  rw [Session.run_bind, Session.run_pure]

/-- What comes of a fetched draft, and the session behind it. -/
def Brings (errand : Errand) (fetch : Task (Stop StoreError) Opened) (e : Editor) (s : Session) : Prop :=
  ∃ result after, fetch.Ends (errand.begin e s).2 result after ∧
    Fetched (errand.begin e s).1 ((errand.run e).run s).1 result ∧ ((errand.run e).run s).2 = after

/-- A draft is fetched from the store that is open. -/
theorem brings_showResult {errand : Errand} {task : Task StoreError Draft} {done : Text → Notice}
    (hrun : (errand.run e).run s = ((errand.begin e s).1.showResult
      (task.run.run (errand.begin e s).2).1 done, (task.run.run (errand.begin e s).2).2)) :
    Brings errand (Opened.mk (errand.begin e s).1.preset (errand.begin e s).1.store <$>
      Task.certain task) e s := by
  refine ⟨_, _, Task.ends_map.2 ⟨_, Task.ends_certain.2 ⟨_, rfl, rfl⟩, rfl⟩, ?_,
    congrArg Prod.snd hrun⟩
  rw [hrun]
  exact fetched_showResult _ done _

/-- Deleting fetches the draft that takes the place of the deleted one. It is the only fetch
in two parts, and the only one that may panic. -/
theorem brings_delete (e : Editor) (s : Session) :
    Brings .delete (Opened.mk e.preset e.store <$> do
      Task.certain (e.store.load (← e.store.delete e.draft.id))) e s := by
  have hrun : (Errand.delete.run e).run s = _ := Session.run_bind _ _ s
  cases hends : (do Task.certain (e.store.load (← e.store.delete e.draft.id)) :
      Task (Stop StoreError) Draft).run.run s with
  | mk result s' =>
    rw [hends] at hrun
    refine ⟨_, _, Task.ends_map.2 ⟨result, hends, rfl⟩, ?_, ?_⟩
    · rw [hrun]
      -- a deletion can be refused, or panic, or bring the next draft
      obtain (cause | panic) | draft := result
      · exact .failed rfl rfl
      · exact .panicked rfl
      · exact .shown rfl
    · rw [hrun]
      obtain (_ | _) | _ := result <;> rfl

/-- Before the preset is changed the open draft is saved. -/
theorem begin_preset {preset : Preset} {id : Text} (h : e.catalog.get? id = some preset) :
    (Errand.preset id).begin e s = e.saveNow.run s := by
  have hcatalog : e.work.catalog.get? id = some preset := h
  rw [Errand.begin, Errand.saves, hcatalog]
  rfl

/-- No save changes the presets that there are. -/
theorem Errand.begin_catalog (errand : Errand) (e : Editor) (s : Session) :
    (errand.begin e s).1.catalog = e.catalog := by
  rcases errand.begin_cases e s with ⟨-, hsaved⟩ | ⟨-, hbegin⟩
  · obtain ⟨_, _, _, hwork⟩ := hsaved.work_eq
    exact congrArg Work.catalog hwork
  · rw [hbegin]

/-- Changing the preset fetches the draft that was opened last there, together with its
store. -/
theorem brings_preset {preset : Preset} {id : Text}
    (h : ((Errand.preset id).begin e s).1.catalog.get? id = some preset) :
    Brings (.preset id) ((fun opened => ⟨preset, opened.1, opened.2⟩) <$>
      Task.certain (((Errand.preset id).begin e s).1.openStore preset)) e s := by
  rw [Errand.begin_catalog] at h
  unfold Brings
  rw [begin_preset h, Errand.run, switchPreset, h, Session.run_bind, Session.run_bind]
  cases hends : ((e.saveNow.run s).1.openStore preset).run.run (e.saveNow.run s).2 with
  | mk result s' =>
    refine ⟨_, _, Task.ends_map.2 ⟨_, Task.ends_certain.2 ⟨result, hends, rfl⟩, rfl⟩, ?_, ?_⟩
    · -- opening the store of a preset takes no entry of a list, so it brings no panic
      cases result with
      | ok opened => exact .shown rfl
      | error cause => exact .failed rfl rfl
    · cases result <;> rfl

/-- **An errand that fetches a draft.** -/
theorem Errand.run_of_fetch {fetch : Task (Stop StoreError) Opened}
    (h : errand.fetch? (errand.begin e s).1 = some fetch) : Brings errand fetch e s := by
  cases errand with
  | openDraft id =>
    obtain rfl := Option.some.inj h
    exact brings_showResult (openDraft_run id e s)
  | newDraft name =>
    obtain rfl := Option.some.inj h
    exact brings_showResult (newDraft_run name e s)
  | saveAs name =>
    obtain rfl := Option.some.inj h
    exact brings_showResult (saveAs_run name e s)
  | delete =>
    obtain rfl := Option.some.inj h
    exact brings_delete e s
  | preset id =>
    obtain ⟨preset, hpreset, rfl⟩ := Option.map_eq_some_iff.1 h
    exact brings_preset hpreset
  -- the other errands fetch nothing
  | _ => cases h

/-! ## 4. Errands without a draft -/

/-- The drafts are left alone; the settings may change, but not where the drafts are. -/
structure Aside (errand : Errand) (e : Editor) (s : Session) (e' : Editor) (s' : Session) : Prop where
  work : ∃ settings : Settings, settings.draftRoot = e.settings.draftRoot ∧
    e'.work = { e.work with settings := settings }
  quiet : ∀ home : Location, (∀ directory, errand = .page directory →
    ¬ home <+: Disk.target s.cwd directory) → Quiet home s s'

/-- An errand that does nothing that counts is aside from the drafts. -/
theorem Aside.of_same (hwork : e'.work = e.work) : Aside errand e s e' s :=
  ⟨⟨e.settings, rfl, hwork⟩, fun home _ => (chains_quiet home).refl s⟩

/-- Writing the settings changes no more than what is said of it. -/
theorem saveSettings_run (settings : Settings) (e : Editor) (s : Session) :
    ∃ notice, (saveSettings { e with settings := settings }).run s =
      ({ e with settings := settings, notice := notice }, (settings.save.run.run s).2) := by
  unfold saveSettings
  rw [Session.run_bind]
  cases settings.save.run.run s with
  | mk result s' => cases result <;> exact ⟨_, rfl⟩

/-- Saving the settings is aside from them, too: their root stays, and the file of the
settings is no document. -/
theorem aside_saveSettings {settings : Settings} (hroot : settings.draftRoot = e.settings.draftRoot)
    (hwork : e'.work = { e.work with settings := settings }) :
    Aside errand e s e' (settings.save.run.run s).2 :=
  ⟨⟨settings, hroot, hwork⟩, fun _ _ => (Settings.save_quiet settings).ends rfl rfl⟩

/-- **An errand that fetches no draft** is aside from the drafts but for its save. A preset
that there is not is not changed to, and then not even the open draft is saved. -/
theorem Errand.run_of_no_fetch (h : errand.fetch? (errand.begin e s).1 = none) :
    Aside errand (errand.begin e s).1 (errand.begin e s).2 ((errand.run e).run s).1
      ((errand.run e).run s).2 := by
  cases errand with
  | save => exact .of_same rfl
  | list => exact .of_same rfl
  | preset id =>
    have hnone : e.catalog.get? id = none := by
      rw [Errand.fetch?, Option.map_eq_none_iff, Errand.begin_catalog] at h
      exact h
    have hbegin : (Errand.preset id).begin e s = (e, s) := by
      have hcatalog : e.work.catalog.get? id = none := hnone
      rw [Errand.begin, Errand.saves, hcatalog]
      rfl
    rw [hbegin, Errand.run, switchPreset, hnone]
    exact .of_same rfl
  | page directory =>
    have hrun : ((Errand.page directory).run e).run s = _ := Session.run_bind _ _ s
    cases hends : (Page.exportTo directory e.content.filename e.page).run.run s with
    | mk result s' =>
      rw [hends] at hrun
      -- a page is written outside of the directories for drafts, or it may hit a document
      have hquiet : ∀ home : Location, (∀ other, Errand.page directory = .page other →
          ¬ home <+: Disk.target s.cwd other) → Quiet home s s' := fun home houtside =>
        (Page.exportTo_quiet (houtside directory rfl) _ _).ends rfl hends
      rw [hrun]
      cases result with
      | ok path => exact ⟨⟨e.settings, rfl, rfl⟩, hquiet⟩
      | error cause => exact ⟨⟨e.settings, rfl, rfl⟩, hquiet⟩
  | theme =>
    obtain ⟨notice, hrun⟩ :=
      saveSettings_run { e.settings with theme := e.settings.theme.toggled } e s
    rw [Errand.run, toggleTheme, Session.run_bind, hrun]
    exact aside_saveSettings rfl rfl
  | reference =>
    obtain ⟨notice, hrun⟩ :=
      saveSettings_run { e.settings with referenceCollapsed := !e.settings.referenceCollapsed } e s
    rw [Errand.run, toggleReference, hrun]
    exact aside_saveSettings rfl rfl
  | _ => cases h

/-- What the work is behind an errand: that behind the save, with other settings and a panic at
most, or that with another draft shown. -/
theorem Errand.work_run (errand : Errand) (e : Editor) (s : Session) :
    (∃ settings panicked, ((errand.run e).run s).1.work =
        { (errand.begin e s).1.work with settings := settings, panicked := panicked }) ∨
      ∃ opened, ((errand.run e).run s).1.work = (errand.begin e s).1.work.shown opened := by
  cases hfetch : errand.fetch? (errand.begin e s).1 with
  | none =>
    obtain ⟨⟨settings, -, hwork⟩, -⟩ := Errand.run_of_no_fetch hfetch
    exact .inl ⟨settings, _, hwork⟩
  | some fetch =>
    obtain ⟨_, _, -, hfetched, -⟩ := Errand.run_of_fetch hfetch
    cases hfetched with
    | shown hwork => exact .inr ⟨_, hwork⟩
    | failed hwork => exact .inl ⟨_, _, hwork⟩
    | panicked hwork => exact .inl ⟨_, _, hwork⟩

/-- **Where the content is still changed behind an errand**, its save has failed, or there was
none and the time of the next one is what it was. -/
theorem Errand.dirty_cases (errand : Errand) (e : Editor) (s : Session)
    (h : ((errand.run e).run s).1.work.dirty = true) :
    (errand.saves e.work = true ∧ e.work.SaveFails s) ∨
      e.work.dirty = true ∧ ((errand.run e).run s).1.work.deadline = e.work.deadline := by
  rcases errand.work_run e s with ⟨settings, panicked, hwork⟩ | ⟨opened, hwork⟩
  · have hdirty : (errand.begin e s).1.work.dirty = true := (congrArg Work.dirty hwork).symm.trans h
    rcases errand.begin_cases e s with ⟨hsaves, hsaved⟩ | ⟨-, hbegin⟩
    · exact .inl ⟨hsaves, hsaved.dirty_iff.1 hdirty⟩
    · rw [hbegin] at hdirty hwork
      rw [hwork]
      exact .inr ⟨hdirty, rfl⟩
  · exact absurd (h.symm.trans (congrArg Work.dirty hwork)) Bool.noConfusion

/-! ## 5. What is left of the editor -/

/-- What can come of an errand, with everything in the editor that is not named left alone. -/
inductive Ran (e : Editor) : Editor → Prop where
  /-- A draft is shown from its beginning. -/
  | shown (preset : Preset) (store : Store) (draft : Draft) (notice : Option Notice) :
    Ran e (showDraft draft { e with preset := preset, store := store, notice := notice })
  /-- The content stays, and it may be known to be saved; the page may have to be made anew. -/
  | kept (settings : Settings) (draft : Draft) (dirty : Bool) (mark : SaveMark)
    (deadline : Option Nat) (notice : Option Notice) (panicked : Option Panic) (stale : Bool)
    (hstale : stale = e.previewStale ∨ stale = true) :
    Ran e { e with
      settings := settings, draft := draft, dirty := dirty, mark := mark, deadline := deadline,
      notice := notice, panicked := panicked, previewStale := stale }
  /-- The drafts are listed, and one of them is chosen if there are any. -/
  | listed (listed : List Drafts.Summary) (selected : Nat)
    (hselected : listed ≠ [] → selected < listed.length) :
    Ran e { e with listed := listed, selected := selected, mode := .picker }

/-- Nothing is changed but what is said. -/
theorem ran_say (notice : Option Notice) (e : Editor) : Ran e { e with notice := notice } :=
  .kept e.settings e.draft e.dirty e.mark e.deadline notice e.panicked e.previewStale (.inl rfl)

/-- A save changes the draft, the marks and the notice. -/
theorem saveNow_ran (e : Editor) (s : Session) : Ran e (e.saveNow.run s).1 := by
  obtain ⟨draft, dirty, mark, notice, hsaved⟩ := exists_saveNow_eq e s
  rw [hsaved]
  exact .kept e.settings draft dirty mark none notice e.panicked e.previewStale (.inl rfl)

/-- A save comes to nothing more where another draft is shown behind it. -/
theorem saveNow_showResult_ran (result : Except StoreError Draft) (done : Text → Notice)
    (e : Editor) (s : Session) : Ran e ((e.saveNow.run s).1.showResult result done) := by
  obtain ⟨draft, dirty, mark, notice, hsaved⟩ := exists_saveNow_eq e s
  rw [hsaved]
  cases result with
  | ok opened => exact .shown e.preset e.store opened (some (done opened.name))
  | error cause =>
    exact .kept e.settings draft dirty mark none (some (.draftsFailed cause)) e.panicked
      e.previewStale (.inl rfl)

/-- **An errand**, as far as it can be seen. -/
theorem Errand.ran (errand : Errand) (e : Editor) (s : Session) :
    Ran e ((errand.run e).run s).1 := by
  cases errand with
  | save => exact saveNow_ran e s
  | openDraft id =>
    rw [Errand.run, openDraft_run]
    exact saveNow_showResult_ran _ _ e s
  | newDraft name =>
    rw [Errand.run, newDraft_run]
    exact saveNow_showResult_ran _ _ e s
  | saveAs name =>
    rw [Errand.run, saveAs_run]
    cases ((e.store.saveAs name e.content).run.run s).1 with
    | ok draft => exact .shown e.preset e.store draft (some (.savedAs draft.name))
    | error cause => exact ran_say (some (.draftsFailed cause)) e
  | delete =>
    have hrun : (Errand.delete.run e).run s = _ := Session.run_bind _ _ s
    rw [hrun]
    split
    next draft _ => exact .shown e.preset e.store draft (some (.deleted e.draft.name))
    next cause _ => exact ran_say (some (.draftsFailed cause)) e
    next panic _ =>
      exact .kept e.settings e.draft e.dirty e.mark e.deadline e.notice (some panic)
        e.previewStale (.inl rfl)
  | preset id =>
    rw [Errand.run, switchPreset]
    split
    · exact ran_say (some (.unknownPreset id)) e
    next preset _ =>
      obtain ⟨draft, dirty, mark, notice, hsaved⟩ := exists_saveNow_eq e s
      rw [Session.run_bind, Session.run_bind, hsaved]
      split
      next cause _ =>
        exact .kept e.settings draft dirty mark none (some (.draftsFailed cause)) e.panicked
          e.previewStale (.inl rfl)
      next store opened _ =>
        exact .shown preset store opened (some (.presetChanged preset.displayName))
  | list =>
    rw [Errand.run, openPicker, Session.run_bind, Session.run_pure]
    refine .listed _ _ fun hlisted => ?_
    -- the open draft is chosen, or the first one if that is not in the list
    show Option.getD _ 0 < List.length _
    cases hfound : ((e.store.list.run s).1.findIdx? fun summary => summary.id = e.draft.id) with
    | none => exact List.length_pos_iff.2 hlisted
    | some number => exact (List.findIdx?_eq_some_iff_getElem.1 hfound).1
  | page directory =>
    rw [Errand.run, writePage, Session.run_bind]
    split
    next path _ => exact ran_say (some (.pageWritten path)) e
    next cause _ => exact ran_say (some (.pageNotWritten cause)) e
  | theme =>
    obtain ⟨notice, hrun⟩ :=
      saveSettings_run { e.settings with theme := e.settings.theme.toggled } e s
    rw [Errand.run, toggleTheme, Session.run_bind, hrun]
    exact .kept _ e.draft e.dirty e.mark e.deadline _ e.panicked true (.inr rfl)
  | reference =>
    obtain ⟨notice, hrun⟩ :=
      saveSettings_run { e.settings with referenceCollapsed := !e.settings.referenceCollapsed } e s
    rw [Errand.run, toggleReference, hrun]
    exact .kept _ e.draft e.dirty e.mark e.deadline notice e.panicked e.previewStale (.inl rfl)

/-- No errand asks whether to delete. -/
theorem Ran.asked (h : Ran e e') : e'.deleteAsked = e.deleteAsked := by
  cases h <;> rfl

end MarkupDesk.Editor
