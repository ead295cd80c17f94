/-
`Proofs/Editor/Documents.lean` -- what an errand does to the documents.

The save that an errand begins with writes the document of the open draft and no other one, and
only where there is one -- if that document, as it is found, says that it is of that draft
(`Errand.Filed`). What is fetched then adds documents under new ids at most; deleting
alone removes one, that of the open draft. So every errand is a `Frame` (`errand_frame`), and
the editor keeps to the drafts below one directory (`Settled`).

Where no document fails to be written and nothing panics, the draft that is shown in the end is
the one that is read from its file (`Held`). Behind a panic it is not: the file of the draft that
is shown was removed by then.
-/
import MarkupDesk.Proofs.Drafts.Reread
import MarkupDesk.Proofs.Editor.Errand

set_option autoImplicit false

namespace MarkupDesk.Editor

open Drafts (AllWritten Consistent Content Draft Frame Quiet Removed Rewritten Sound Store
  StoreError Untouched Written chains_frame chains_quiet chains_removed chains_rewritten readDraft spot)
open Files (Disk Location)
open MarkupDesk.Task (Ends)

variable {home cwd : Location} {e e' : Editor} {s s' after : Session} {errand : Errand}
  {fetch : Task (Stop StoreError) Opened} {opened : Opened}

/-! ## 1. The drafts of the editor -/

/-- The editor keeps its drafts below one directory. -/
structure Settled (home cwd : Location) (w : Work) : Prop where
  store : w.store.In home cwd
  root : Disk.target cwd w.settings.draftRoot = home

/-- The location of the document of the open draft. -/
def Work.spot (home : Location) (w : Work) : Location := Drafts.spot home w.store.presetId w.draft.id

/-- What an errand may do to documents. -/
def Errand.May (home : Location) (w : Work) :
    Errand → Location → Option Files.Content → Option Files.Content → Prop
  | delete => Removed (w.spot home)
  | _ => Rewritten (w.spot home)

/-- What an errand may do to documents can be done in several steps; this is what lets its
save and its fetch be looked at one by one. -/
theorem Errand.chains_may (home : Location) (w : Work) (errand : Errand) :
    Chains (Frame home (errand.May home w)) := by
  cases errand with
  | delete => exact chains_removed home _
  | _ => exact chains_rewritten home _

/-! ## 2. The save -/

/-- The save that the errand begins with, if it does, finds the open draft in the file of its
id. -/
def Errand.Filed (home : Location) (s : Session) (w : Work) (errand : Errand) : Prop :=
  errand.saves w = true → Sound home (w.spot home) (s.disk.file? (w.spot home))

/-- Where every document is in the file of its id, so is the open one. -/
theorem Errand.filed (h : Consistent home s) (errand : Errand) (w : Work) :
    errand.Filed home s w := fun _ => h _ (Drafts.isDocument_spot home _ _)

/-- A draft that is read in the place of the open one has that place. -/
theorem Work.spot_eq {w : Work} {draft : Draft} (hsettled : Settled home s.cwd w)
    (hsound : Sound home (w.spot home) (s.disk.file? (w.spot home)))
    (hread : readDraft s w.store w.draft.id = some draft) :
    Drafts.spot home w.store.presetId draft.id = w.spot home :=
  Drafts.spot_congr (hsound.componentName_eq hsettled.store hread) home w.store.presetId

/-- **The save** writes the document of the open draft. -/
theorem Saved.frame (h : Saved e s e' s') (hsettled : Settled home s.cwd e.work)
    (hsound : Sound home (e.work.spot home) (s.disk.file? (e.work.spot home))) :
    Frame home (Rewritten (e.work.spot home)) s s' := by
  -- whether it was written or failed, the save was one of the draft that was read
  have hautosave : ∀ {result : Except StoreError (Option Draft)},
      Ends (e.store.autosave e.draft.id e.content) s result s' →
        Frame home (Rewritten (e.work.spot home)) s s' := by
    intro result hends
    rcases Drafts.autosave_cases hsettled.store hends with ⟨-, -, rfl⟩ | ⟨draft, hread, hframe, -⟩
    · exact (chains_rewritten home _).refl s'
    · refine hframe.mono fun x new hx => ?_
      have hplace : x = e.work.spot home := hx.1.trans (Work.spot_eq hsettled hsound hread)
      exact ⟨hplace, hplace ▸ Drafts.isSome_of_readDraft hsettled.store hread, hx.2⟩
  cases h with
  | clean => exact (chains_rewritten home _).refl s
  | written _ hsave => exact hautosave hsave
  | failed _ hsave => exact hautosave hsave

/-- The draft stays where it is. -/
theorem Saved.spot_eq (h : Saved e s e' s') (hsettled : Settled home s.cwd e.work)
    (hsound : Sound home (e.work.spot home) (s.disk.file? (e.work.spot home))) :
    e'.work.spot home = e.work.spot home := by
  cases h with
  | clean _ hwork => rw [hwork]; rfl
  | failed _ _ _ hwork => rw [hwork]; rfl
  | written _ hsave hwork =>
    obtain ⟨old, hread, rfl⟩ := Drafts.autosave_ok hsave
    have hspot := Work.spot_eq hsettled hsound hread
    rw [hwork]
    exact hspot

/-- The save that an errand begins with is within what the errand may do. -/
theorem Errand.begin_frame (hsettled : Settled home s.cwd e.work)
    (hfiled : errand.Filed home s e.work) :
    Frame home (errand.May home e.work) s (errand.begin e s).2 := by
  cases errand with
  | delete => exact (chains_removed home _).refl s
  | _ =>
    rcases Errand.begin_cases _ e s with ⟨hsaves, hsaved⟩ | ⟨-, hbegin⟩
    · exact hsaved.frame hsettled (hfiled hsaves)
    · rw [hbegin]
      exact (chains_rewritten home _).refl s

/-- It does not move the editor to another store. -/
theorem Errand.begin_settled (errand : Errand) (hsettled : Settled home cwd e.work) :
    Settled home cwd (errand.begin e s).1.work := by
  rcases errand.begin_cases e s with ⟨-, hsaved⟩ | ⟨-, hbegin⟩
  · obtain ⟨_, _, _, hwork⟩ := hsaved.work_eq
    rw [hwork]
    exact ⟨hsettled.store, hsettled.root⟩
  · rw [hbegin]
    exact hsettled

/-- And not to another document: the draft that the save goes on with has the file of the one
before. -/
theorem Errand.begin_spot (hsettled : Settled home s.cwd e.work)
    (hfiled : errand.Filed home s e.work) :
    (errand.begin e s).1.work.spot home = e.work.spot home := by
  rcases errand.begin_cases e s with ⟨hsaves, hsaved⟩ | ⟨-, hbegin⟩
  · exact hsaved.spot_eq hsettled (hfiled hsaves)
  · rw [hbegin]

/-! ## 3. Fetching -/

/-- A draft that takes the place of another one comes with documents under new ids at most.
Five errands fetch a draft; deleting alone takes a document away and is left out here. -/
theorem fetch_frame_of_ne (hsettled : Settled home cwd e.work) (h : errand.fetch? e = some fetch)
    (hne : errand ≠ .delete) : fetch.Does cwd (Frame home Untouched) := by
  have hstore : e.store.In home cwd := hsettled.store
  cases errand with
  | openDraft id =>
    obtain rfl := Option.some.inj h
    exact Task.does_map (Task.does_certain (Drafts.load_frame hstore id))
  | newDraft name =>
    obtain rfl := Option.some.inj h
    exact Task.does_map (Task.does_certain (Drafts.create_frame hstore name))
  | saveAs name =>
    obtain rfl := Option.some.inj h
    exact Task.does_map (Task.does_certain (Drafts.saveAs_frame hstore name e.content))
  | delete => exact absurd rfl hne
  -- opening a store may make a starter draft, under a new id
  | preset id =>
    obtain ⟨preset, -, rfl⟩ := Option.map_eq_some_iff.1 h
    refine Task.does_map (Task.does_certain
      (Drafts.openFor_bind_frame hsettled.root fun hin => ?_))
    exact Task.does_bind (chains_frame home) (Drafts.loadActive_frame hin) fun _ =>
      Task.does_pure (chains_frame home) _
  | _ => cases h

/-- With deletion: what is fetched is within what the errand may do. -/
theorem fetch_frame (hsettled : Settled home cwd e.work) (h : errand.fetch? e = some fetch) :
    fetch.Does cwd (Frame home (errand.May home e.work)) := by
  by_cases hdelete : errand = .delete
  · subst hdelete
    obtain rfl := Option.some.inj h
    refine Task.does_map (Task.does_bind (chains_removed home _)
      (Drafts.delete_frame hsettled.store e.draft.id) fun id => ?_)
    exact Task.does_certain
      ((Drafts.load_frame hsettled.store id).mono fun _ _ => Frame.of_untouched)
  · exact (fetch_frame_of_ne hsettled h hdelete).mono fun _ _ => Frame.of_untouched

/-- The store of a fetched draft keeps its drafts where the editor does. Only a change of
preset brings another store, and that one is opened under the same root. -/
theorem fetch_store (hsettled : Settled home cwd e.work) (h : errand.fetch? e = some fetch)
    (hends : fetch.Ends s (.ok opened) after) : opened.store.In home cwd := by
  have hsame : ∀ {task : Task (Stop StoreError) Draft},
      Ends (Opened.mk e.preset e.store <$> task) s (.ok opened) after →
        opened.store.In home cwd := by
    intro task hends
    obtain ⟨result, -, hresult⟩ := Task.ends_map.1 hends
    cases result with
    | error problem => cases hresult
    | ok draft =>
      rw [Except.ok.inj hresult]
      exact hsettled.store
  cases errand with
  | preset id =>
    obtain ⟨preset, -, rfl⟩ := Option.map_eq_some_iff.1 h
    obtain ⟨result, hends, hresult⟩ := Task.ends_map.1 hends
    cases result with
    | error problem => cases hresult
    | ok pair =>
      rw [Except.ok.inj hresult]
      obtain ⟨store, _, hopen, hends⟩ := Task.ends_bind_ok.1 (Task.ends_mapError_ok.1 hends)
      obtain ⟨_, _, -, hends⟩ := Task.ends_bind_ok.1 hends
      rw [Except.ok.inj (Task.ends_pure.1 hends).1, Drafts.openFor_store hopen]
      exact Drafts.in_ofPreset hsettled.root preset
  -- these stay with the store that the editor has
  | openDraft | newDraft | saveAs | delete =>
    obtain rfl := Option.some.inj h
    exact hsame hends
  | _ => cases h

/-! ## 4. Errands -/

/-- No page of the errand is written among the drafts. -/
def Errand.Outside (home cwd : Location) (errand : Errand) : Prop :=
  ∀ directory, errand = .page directory → ¬ home <+: Disk.target cwd directory

/-- **What an errand does to documents.** -/
theorem errand_frame (hsettled : Settled home s.cwd e.work)
    (hfiled : errand.Filed home s e.work) (houtside : errand.Outside home s.cwd) :
    Frame home (errand.May home e.work) s ((errand.run e).run s).2 := by
  have hfirst := Errand.begin_frame hsettled hfiled
  refine (errand.chains_may home e.work).trans hfirst ?_
  have hsettled' : Settled home (errand.begin e s).2.cwd (errand.begin e s).1.work :=
    hfirst.cwd_eq.symm ▸ errand.begin_settled hsettled
  -- a save does not change which document the errand is about
  have hmay : errand.May home (errand.begin e s).1.work = errand.May home e.work := by
    have hspot := Errand.begin_spot hsettled hfiled
    cases errand <;> simp only [Errand.May, hspot]
  cases hfetch : errand.fetch? (errand.begin e s).1 with
  | some fetch =>
    obtain ⟨result, after, hends, -, rfl⟩ := Errand.run_of_fetch hfetch
    rw [← hmay]
    exact (fetch_frame hsettled' hfetch).ends rfl hends
  | none =>
    refine ((Errand.run_of_no_fetch hfetch).quiet home ?_).frame
    rw [hfirst.cwd_eq]
    exact houtside

/-- So the editor stays with the drafts below its directory, whatever the errand ends with. -/
theorem errand_settled (hsettled : Settled home cwd e.work) :
    Settled home cwd ((errand.run e).run s).1.work := by
  have hfirst := errand.begin_settled (s := s) hsettled
  cases hfetch : errand.fetch? (errand.begin e s).1 with
  | some fetch =>
    obtain ⟨result, after, hends, hfetched, -⟩ := Errand.run_of_fetch hfetch
    -- only what is shown brings another store, that of a preset
    cases hfetched with
    | failed hwork => rwa [hwork]
    | panicked hwork =>
      rw [hwork]
      exact ⟨hfirst.store, hfirst.root⟩
    | shown hwork =>
      rw [hwork]
      exact ⟨fetch_store hfirst hfetch hends, hfirst.root⟩
  | none =>
    obtain ⟨⟨settings, hroot, hwork⟩, -⟩ := Errand.run_of_no_fetch hfetch
    rw [hwork]
    exact ⟨hfirst.store, hroot ▸ hfirst.root⟩

/-- Saving leaves the working directory. -/
theorem Errand.begin_cwd (errand : Errand) (e : Editor) (s : Session) :
    (errand.begin e s).2.cwd = s.cwd := by
  rcases errand.begin_cases e s with ⟨-, hsaved⟩ | ⟨-, hbegin⟩
  · exact chains_onlyDisk.cwd hsaved.onlyDisk
  · rw [hbegin]

/-- Wherever a page goes, there are places that it does not go to. -/
theorem Aside.cwd_eq (h : Aside errand e s e' s') : s'.cwd = s.cwd := by
  have hquiet : ∃ home, Quiet home s s' := by
    cases errand with
    | page directory =>
      refine ⟨Disk.target s.cwd directory ++ [[]], h.quiet _ fun other hother hprefix => ?_⟩
      obtain rfl := Errand.page.inj hother
      simpa using hprefix.length_le
    | _ => exact ⟨[], h.quiet _ fun other hother => nomatch hother⟩
  obtain ⟨home, hquiet⟩ := hquiet
  exact (chains_quiet home).cwd hquiet

/-- And so does the whole errand. -/
theorem errand_cwd (hsettled : Settled home s.cwd e.work) :
    ((errand.run e).run s).2.cwd = s.cwd := by
  have hfirst := errand.begin_cwd e s
  have hsettled' : Settled home (errand.begin e s).2.cwd (errand.begin e s).1.work :=
    hfirst.symm ▸ errand.begin_settled hsettled
  cases hfetch : errand.fetch? (errand.begin e s).1 with
  | some fetch =>
    obtain ⟨result, after, hends, -, rfl⟩ := Errand.run_of_fetch hfetch
    exact ((fetch_frame hsettled' hfetch).ends rfl hends).cwd_eq.trans hfirst
  | none => exact (Errand.run_of_no_fetch hfetch).cwd_eq.trans hfirst

/-! ## 5. What is shown is what is read -/

/-- The draft is the one that is read from its file, unless the content was changed since. -/
def Held (s : Session) (w : Work) : Prop :=
  w.dirty = false → readDraft s w.store w.draft.id = some w.draft

/-- No file of a draft has failed to be written, and there was no panic. -/
def Regular {α : Type} (result : Except (Stop StoreError) α) : Prop :=
  AllWritten result ∧ Stop.isPanic result = false

/-- What is computed with a result says nothing about writing or panics. -/
theorem regular_map {α β : Type} {f : α → β} {result : Except (Stop StoreError) α}
    (h : Regular (result.map f)) : Regular result := by
  refine ⟨Drafts.allWritten_map h.1, ?_⟩
  have hcalm := h.2
  obtain (problem | panic) | x := result
  · rfl
  · cases hcalm
  · rfl

/-- A task that cannot panic has written its files. -/
theorem written_of_regular {α : Type} {outcome : Except StoreError α}
    (h : Regular (outcome.mapError .failed)) : Written outcome := Drafts.allWritten_certain.1 h.1

/-- Why an operation on drafts failed, if that is what is told. -/
def failure? (e : Editor) : Option StoreError :=
  match e.notice with
  | some (.draftsFailed cause) => some cause
  | _ => none

/-- It is not told of a file that could not be written, and the program has not panicked. -/
def Unfailed (e : Editor) : Prop :=
  e.panicked = none ∧ ∀ cause ∈ e.failure?, Written (.error cause : Except StoreError Opened)

/-- A save leaves the draft that it goes on with in its file. -/
theorem Saved.held (h : Saved e s e' s') (hsettled : Settled home s.cwd e.work)
    (hclock : s.now.Proper) (hheld : Held s e.work) : Held s' e'.work := by
  intro hclean'
  cases h with
  | clean hclean hwork =>
    rw [hwork]
    exact hheld hclean
  -- a save that failed leaves the content changed, so nothing is claimed
  | failed hdirty _ _ hwork =>
    rw [hwork] at hclean'
    exact absurd (hdirty.symm.trans hclean') Bool.noConfusion
  | written hdirty hsave hwork =>
    rcases Drafts.autosave_cases hsettled.store hsave with
      ⟨-, hresult, -⟩ | ⟨old, -, -, ⟨_, _, hresult⟩ | ⟨hresult, hread⟩⟩
    · cases hresult
    · cases hresult
    · rw [hwork, Option.some.inj (Except.ok.inj hresult)]
      exact hread hclock

/-- Behind the save of an errand the draft that is shown is still the one in its file. -/
theorem Errand.begin_held (errand : Errand) (hsettled : Settled home s.cwd e.work)
    (hclock : s.now.Proper) (hheld : Held s e.work) :
    Held (errand.begin e s).2 (errand.begin e s).1.work := by
  rcases errand.begin_cases e s with ⟨-, hsaved⟩ | ⟨-, hbegin⟩
  · exact hsaved.held hsettled hclock hheld
  · rw [hbegin]
    exact hheld

/-- The draft that was fetched is read from its file, or nothing has changed. -/
inductive Brought (store : Store) (s after : Session) : Except (Stop StoreError) Draft → Prop where
  | read {draft : Draft} (hread : readDraft after store draft.id = some draft) :
    Brought store s after (.ok draft)
  | none {problem : StoreError} (hsame : after = s) :
    Brought store s after (.error (.failed problem))

/-- Opening a draft brings one that is read from its file, if nothing failed to be written. -/
theorem brought_load {store : Store} {id : Text} {result : Except (Stop StoreError) Draft}
    (hin : store.In home s.cwd) (hclock : s.now.Proper) (hconsistent : Consistent home s)
    (hregular : Regular result) (hends : Ends (Task.certain (store.load id)) s result after) :
    Brought store s after result := by
  obtain ⟨outcome, hload, rfl⟩ := Task.ends_certain.1 hends
  obtain ⟨draft, rfl, hread⟩ :=
    Drafts.load_written hin hclock hconsistent (written_of_regular hregular) hload
  exact .read hread

/-- So does making one. -/
theorem brought_saveAs {store : Store} {name : Text} {content : Content}
    {result : Except (Stop StoreError) Draft} (hin : store.In home s.cwd) (hclock : s.now.Proper)
    (hregular : Regular result)
    (hends : Ends (Task.certain (store.saveAs name content)) s result after) :
    Brought store s after result := by
  obtain ⟨outcome, hsave, rfl⟩ := Task.ends_certain.1 hends
  rcases Drafts.saveAs_written hin hclock (written_of_regular hregular) hsave with
    ⟨rfl, rfl⟩ | ⟨draft, rfl, -, hread⟩
  · exact .none rfl
  · exact .read hread

/-- Deleting is followed by opening the draft that takes the place of the deleted one. -/
theorem brought_delete {store : Store} {id : Text} {result : Except (Stop StoreError) Draft}
    (hin : store.In home s.cwd) (hclock : s.now.Proper) (hconsistent : Consistent home s)
    (hregular : Regular result)
    (hends : Ends (do Task.certain (store.load (← store.delete id))) s result after) :
    Brought store s after result := by
  rcases Task.ends_bind.1 hends with ⟨stop, hdelete, rfl⟩ | ⟨next, between, hdelete, hload⟩
  · rcases Drafts.delete_written hregular.1.error hdelete with
      ⟨_, hresult⟩ | hpanic | ⟨problem, hresult, hsame⟩
    · cases hresult
    -- a panic is no regular end, so only the refusals of the store are left
    · obtain problem | panic := stop
      · cases hpanic
      · exact absurd hregular.2 (Bool.noConfusion : ¬ true = false)
    · rw [Except.error.inj hresult]
      exact .none hsame
  · have hframe := (Drafts.delete_frame hin id).ends rfl hdelete
    have hin' : store.In home between.cwd := hframe.cwd_eq.symm ▸ hin
    have hclock' : between.now.Proper := hframe.now_eq.symm ▸ hclock
    obtain ⟨outcome, hopen, rfl⟩ := Task.ends_certain.1 hload
    obtain ⟨draft, rfl, hread⟩ := Drafts.load_written hin' hclock'
      (hframe.consistent hclock hconsistent) (written_of_regular hregular) hopen
    exact .read hread

/-- Another preset comes with its store and the draft of it that was opened last. -/
theorem openStore_reads {preset : Preset} {result : Except StoreError (Store × Draft)}
    (hsettled : Settled home s.cwd e.work) (hclock : s.now.Proper) (hconsistent : Consistent home s)
    (hwritten : Written result) (hends : Ends (e.openStore preset) s result after) :
    ∃ store draft, result = .ok (store, draft) ∧ readDraft after store draft.id = some draft := by
  have hroot : Disk.target s.cwd e.settings.draftRoot = home := hsettled.root
  rcases Task.ends_bind.1 hends with ⟨problem, hopen, rfl⟩ | ⟨store, between, hopen, hrest⟩
  · cases Drafts.openFor_written hwritten.error hopen
  have hframe := (Drafts.openFor_frame hroot preset).ends rfl hopen
  have hin : store.In home between.cwd := by
    rw [hframe.cwd_eq, Drafts.openFor_store hopen]
    exact Drafts.in_ofPreset hroot preset
  -- opening the store sets no clock and changes no document
  have hclock' : between.now.Proper := hframe.now_eq.symm ▸ hclock
  have hconsistent' := hframe.consistent hclock hconsistent
  rcases Task.ends_bind.1 hrest with ⟨problem, hload, rfl⟩ | ⟨draft, last, hload, hpure⟩
  · obtain ⟨_, hresult, -⟩ :=
      Drafts.loadActive_written hin hclock' hconsistent' hwritten.error hload
    cases hresult
  · obtain ⟨rfl, rfl⟩ := Task.ends_pure.1 hpure
    have hfound : Written (.ok draft : Except StoreError Draft) := trivial
    obtain ⟨_, hresult, hread⟩ := Drafts.loadActive_written hin hclock' hconsistent' hfound hload
    obtain rfl := Except.ok.inj hresult
    exact ⟨store, draft, rfl, hread⟩

theorem held_of_brought {task : Task (Stop StoreError) Draft}
    {result : Except (Stop StoreError) Opened}
    (hends : Ends (Opened.mk e.preset e.store <$> task) s result after) (hregular : Regular result)
    (htask : ∀ outcome, task.Ends s outcome after → Regular outcome →
      Brought e.store s after outcome)
    (hfetched : Fetched e e' result) (hheld : Held s e.work) : Held after e'.work := by
  obtain ⟨outcome, houtcome, rfl⟩ := Task.ends_map.1 hends
  -- a draft was read and is shown, or nothing has changed
  cases htask outcome houtcome (regular_map hregular) with
  | read hread =>
    cases hfetched with
    | shown hwork =>
      rw [hwork]
      exact fun _ => hread
  | none hsame =>
    cases hfetched with
    | failed hwork => rwa [hwork, hsame]

/-- What is fetched is shown and is read from its file; or it failed, and then the draft that
was shown before is still shown, and still read. -/
theorem fetch_held {result : Except (Stop StoreError) Opened} (hsettled : Settled home s.cwd e.work)
    (hclock : s.now.Proper) (hconsistent : Consistent home s) (h : errand.fetch? e = some fetch)
    (hends : fetch.Ends s result after) (hregular : Regular result) (hfetched : Fetched e e' result)
    (hheld : Held s e.work) : Held after e'.work := by
  have hin : e.store.In home s.cwd := hsettled.store
  cases errand with
  | openDraft id =>
    obtain rfl := Option.some.inj h
    exact held_of_brought hends hregular (fun _ hends hregular =>
      brought_load hin hclock hconsistent hregular hends) hfetched hheld
  | newDraft name =>
    obtain rfl := Option.some.inj h
    exact held_of_brought hends hregular (fun _ hends hregular =>
      brought_saveAs hin hclock hregular hends) hfetched hheld
  | saveAs name =>
    obtain rfl := Option.some.inj h
    exact held_of_brought hends hregular (fun _ hends hregular =>
      brought_saveAs hin hclock hregular hends) hfetched hheld
  | delete =>
    obtain rfl := Option.some.inj h
    exact held_of_brought hends hregular (fun _ hends hregular =>
      brought_delete hin hclock hconsistent hregular hends) hfetched hheld
  -- the one fetch that ends in another store
  | preset id =>
    obtain ⟨preset, -, rfl⟩ := Option.map_eq_some_iff.1 h
    obtain ⟨_, hcertain, rfl⟩ := Task.ends_map.1 hends
    obtain ⟨outcome, hopen, rfl⟩ := Task.ends_certain.1 hcertain
    obtain ⟨store, draft, rfl, hread⟩ := openStore_reads hsettled hclock hconsistent
      (written_of_regular (regular_map hregular)) hopen
    cases hfetched with
    | shown hwork =>
      rw [hwork]
      exact fun _ => hread
  | _ => cases h

/-- **What an errand shows** is what is read. Its save leaves the open draft in its file, and
what is fetched is read there, too; where nothing is fetched, no document is touched behind
the save. -/
theorem errand_held (hsettled : Settled home s.cwd e.work) (hclock : s.now.Proper)
    (hconsistent : Consistent home s) (houtside : errand.Outside home s.cwd)
    (hunfailed : Unfailed ((errand.run e).run s).1) (hheld : Held s e.work) :
    Held ((errand.run e).run s).2 ((errand.run e).run s).1.work := by
  have hfirst := Errand.begin_frame hsettled (errand.filed hconsistent e.work)
  have hheld' := errand.begin_held hsettled hclock hheld
  have hsettled' : Settled home (errand.begin e s).2.cwd (errand.begin e s).1.work :=
    hfirst.cwd_eq.symm ▸ errand.begin_settled hsettled
  have hclock' : (errand.begin e s).2.now.Proper := hfirst.now_eq.symm ▸ hclock
  cases hfetch : errand.fetch? (errand.begin e s).1 with
  | some fetch =>
    obtain ⟨result, after, hends, hfetched, rfl⟩ := Errand.run_of_fetch hfetch
    refine fetch_held hsettled' hclock' (hfirst.consistent hclock hconsistent) hfetch hends ?_
      hfetched hheld'
    cases hfetched with
    | shown => exact ⟨trivial, rfl⟩
    | failed _ hnotice => exact ⟨hunfailed.2 _ (by rw [failure?, hnotice]; rfl), rfl⟩
    -- a panic is excluded: the program has not ended
    | panicked hwork => cases (congrArg Work.panicked hwork).symm.trans hunfailed.1
  | none =>
    obtain ⟨⟨settings, -, hwork⟩, hquiet⟩ := Errand.run_of_no_fetch hfetch
    rw [hwork]
    intro hclean
    refine (hquiet home ?_).readDraft hsettled'.store (hheld' hclean)
    rw [hfirst.cwd_eq]
    exact houtside

end MarkupDesk.Editor
