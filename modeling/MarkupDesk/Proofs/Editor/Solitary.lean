/-
`Proofs/Editor/Solitary.lean` -- an editor that no other program disturbs.

Where files fail to be written, the file of the open draft may be missing: deleting a draft takes
its document away first, and if that is all it comes to, the draft is still shown. But what is in
the file, if it is there, is the draft that is shown, unless the content was changed since
(`Current`). This is so behind every step, whether it fails or not: a save that fails leaves the
content changed, and of the other operations none writes a document but under an id that it makes
(`Run.current`).

The store that the editor has open is always the one of its preset (`Run.placed`).
-/
import MarkupDesk.Proofs.Editor.Coherence

set_option autoImplicit false

namespace MarkupDesk.Editor

open Drafts (Consistent Frame HasFolder Store StoreError Unclaimed readDraft)
open Files (Location)
open Shell (MayGo)
open MarkupDesk.Task (Ends)

variable {home cwd : Location} {rules : Rules} {e e' : Editor} {s s' after : Session}
  {log : List Step} {step : Step} {errand : Errand} {fetch : Task (Stop StoreError) Opened}
  {opened : Opened} {w : Work}

/-! ## 1. What is in the file -/

/-- The draft is the one in its file, if that can be read, unless the content was changed since. -/
structure Current (s : Session) (w : Work) : Prop where
  folder : HasFolder s w.store (.draft w.draft.id)
  draft : w.dirty = false → ∀ draft ∈ readDraft s w.store w.draft.id, draft = w.draft

namespace Current

/-- If what is shown is read from its file, then what is in the file is current. -/
theorem of_held (hin : w.store.In home s.cwd) (hclean : w.dirty = false) (hheld : Held s w) :
    Current s w := by
  have hread := hheld hclean
  refine ⟨((Drafts.readDraft_eq_some_iff hin).1 hread).1, fun _ draft hdraft => ?_⟩
  exact Option.some.inj (hdraft.symm.trans hread)

/-- A change makes no claim on the file: it says that the content is no longer that of the
draft. -/
theorem changed (h : Current s w) (ticks : Nat) (content : Drafts.Content) :
    Current s (w.changed ticks content) := ⟨h.folder, fun hclean => absurd hclean Bool.noConfusion⟩

/-- Documents may go, and others may come, if they have not the id of the draft. -/
theorem frame (h : Current s w) (hin : w.store.In home s.cwd) (hframe : Frame home MayGo s after)
    (hunclaimed : Unclaimed w.draft.id s after) : Current after w := by
  have hin' : w.store.In home after.cwd := hframe.cwd_eq.symm ▸ hin
  refine ⟨Drafts.hasFolder_mono hframe.cwd_eq hframe.directories h.folder, fun hclean draft hdraft => ?_⟩
  -- the document is what it was or has gone, and then nothing is read
  rcases hframe.document_cases hunclaimed w.store.presetId with hsame | hgone
  · rw [hframe.readDraft_eq hin h.folder hsame] at hdraft
    exact h.draft hclean draft hdraft
  · obtain ⟨-, -, t, ht, -⟩ := (Drafts.readDraft_eq_some_iff hin').1 hdraft
    cases hgone.symm.trans ht

/-- **A save** writes the draft, or leaves the content changed. -/
theorem saved (h : Current s e.work) (hsaved : Saved e s e' s') (hsettled : Settled home s.cwd e.work)
    (hclock : s.now.Proper) (hframe : Frame home (Drafts.Rewritten (e.work.spot home)) s s') :
    Current s' e'.work := by
  have hin : e.store.In home s'.cwd := hframe.cwd_eq.symm ▸ hsettled.store
  cases hsaved with
  | clean hclean hwork =>
    rw [hwork]
    exact ⟨h.folder, h.draft⟩
  | failed hdirty _ _ hwork =>
    rw [hwork]
    refine ⟨Drafts.hasFolder_mono hframe.cwd_eq hframe.directories h.folder, fun hclean => ?_⟩
    exact absurd (hdirty.symm.trans hclean) Bool.noConfusion
  -- what was written is read, so the draft is current again
  | written hdirty hsave hwork =>
    have hheld : Held s' e'.work := Saved.held (.written hdirty hsave hwork) hsettled hclock
      fun hclean => absurd (hdirty.symm.trans hclean) Bool.noConfusion
    rw [hwork] at hheld ⊢
    exact of_held hin rfl hheld

end Current

/-! ## 2. What a step does to it -/

/-- What is fetched leaves the documents that were there, but for one that is deleted. -/
theorem fetch_mayGo (hsettled : Settled home cwd e.work) (h : errand.fetch? e = some fetch) :
    fetch.Does cwd (Frame home MayGo) := by
  by_cases hdelete : errand = .delete
  · subst hdelete
    exact (fetch_frame hsettled h).mono fun _ _ hframe => hframe.mono fun _ _ hremoved => hremoved.2
  · exact (fetch_frame_of_ne hsettled h hdelete).mono fun _ _ => Frame.of_untouched

/-- A draft that was fetched is read from its file, whatever was open before. -/
theorem fetch_current (hsettled : Settled home s.cwd e.work) (hclock : s.now.Proper)
    (hconsistent : Consistent home s) (h : errand.fetch? e = some fetch)
    (hends : fetch.Ends s (.ok opened) after) : Current after (e.work.shown opened) := by
  -- nothing is said of a draft whose content was changed
  have hfetch : errand.fetch? { e with dirty := true } = some fetch := by
    rw [← h]
    cases errand <;> rfl
  have hsettled' : Settled home s.cwd { e with dirty := true }.work := ⟨hsettled.store, hsettled.root⟩
  have hregular : Regular (.ok opened : Except (Stop StoreError) Opened) := ⟨trivial, rfl⟩
  have hfetched : Fetched { e with dirty := true }
      { e with
        preset := opened.preset
        store := opened.store
        draft := opened.draft
        content := opened.draft.content
        dirty := false
        mark := .idle
        deadline := none } (.ok opened) := .shown rfl
  have hheld := fetch_held hsettled' hclock hconsistent hfetch hends hregular hfetched
    fun hclean => absurd hclean Bool.noConfusion
  have hcwd := ((fetch_mayGo hsettled h).ends rfl hends).cwd_eq
  exact .of_held (hcwd.symm ▸ fetch_store hsettled h hends) rfl hheld

/-- The save that an errand begins with writes what is shown, or nothing. -/
theorem Errand.begin_current (errand : Errand) (hsettled : Settled home s.cwd e.work)
    (hclock : s.now.Proper) (hconsistent : Consistent home s) (hcurrent : Current s e.work) :
    Current (errand.begin e s).2 (errand.begin e s).1.work := by
  rcases errand.begin_cases e s with ⟨hsaves, hsaved⟩ | ⟨-, hbegin⟩
  · exact hcurrent.saved hsaved hsettled hclock
      (hsaved.frame hsettled (errand.filed hconsistent e.work hsaves))
  · rw [hbegin]
    exact hcurrent

/-- **An errand** leaves the file of the open draft right, however it ends. -/
theorem errand_current (hsettled : Settled home s.cwd e.work) (hclock : s.now.Proper)
    (hconsistent : Consistent home s) (houtside : errand.Outside home s.cwd)
    (hunclaimed : Unclaimed e.draft.id s ((errand.run e).run s).2) (hcurrent : Current s e.work) :
    Current ((errand.run e).run s).2 ((errand.run e).run s).1.work := by
  have hfiled := errand.filed hconsistent e.work
  have hfirst := Errand.begin_frame hsettled hfiled
  have hcurrent' := errand.begin_current hsettled hclock hconsistent hcurrent
  have hsettled' : Settled home (errand.begin e s).2.cwd (errand.begin e s).1.work :=
    hfirst.cwd_eq.symm ▸ errand.begin_settled hsettled
  -- a save may bring the draft another id, but not another name
  have hunclaimed' : Unclaimed (errand.begin e s).1.draft.id (errand.begin e s).2
      ((errand.run e).run s).2 :=
    hunclaimed.mono (Drafts.componentName_of_spot (Errand.begin_spot hsettled hfiled)).2
      hfirst.now_eq hfirst.tokens (Nat.le_refl _)
  cases hfetch : errand.fetch? (errand.begin e s).1 with
  | some fetch =>
    obtain ⟨result, after, hends, hfetched, hafter⟩ := Errand.run_of_fetch hfetch
    rw [hafter] at hunclaimed' ⊢
    -- the draft that was fetched is shown, or the one that was open stays
    cases hfetched with
    | shown hwork =>
      rw [hwork]
      exact fetch_current hsettled' (hfirst.now_eq.symm ▸ hclock)
        (hfirst.consistent hclock hconsistent) hfetch hends
    | failed hwork =>
      rw [hwork]
      exact hcurrent'.frame hsettled'.store ((fetch_mayGo hsettled' hfetch).ends rfl hends)
        hunclaimed'
    | panicked hwork =>
      have hkept := hcurrent'.frame hsettled'.store ((fetch_mayGo hsettled' hfetch).ends rfl hends)
        hunclaimed'
      rw [hwork]
      exact ⟨hkept.folder, hkept.draft⟩
  | none =>
    obtain ⟨⟨settings, -, hwork⟩, hquiet⟩ := Errand.run_of_no_fetch hfetch
    have hframe : Frame home MayGo (errand.begin e s).2 ((errand.run e).run s).2 :=
      (hquiet home (hfirst.cwd_eq.symm ▸ houtside)).frame
    have hkept := hcurrent'.frame hsettled'.store hframe hunclaimed'
    rw [hwork]
    exact ⟨hkept.folder, hkept.draft⟩

/-- **A step leaves the file of the open draft right**, whether it fails or not. -/
theorem Step.current (hsettled : Settled home step.session.cwd step.editor.work)
    (hconsistent : Consistent home step.session) (hclock : step.session.now.Proper)
    (houtside : step.Outside home)
    (hunclaimed : Unclaimed step.editor.draft.id step.session step.after.2)
    (hcurrent : Current step.session step.editor.work) :
    Current step.after.2 step.after.1.work := by
  rcases step.after_cases with ⟨-, hnone⟩ | ⟨errand, herrand, hcarries⟩
  · rw [hnone.session]
    rcases hnone.work with hwork | ⟨content, hwork⟩
    · rwa [hwork]
    · rw [hwork]
      exact hcurrent.changed _ content
  · obtain ⟨e, hsame, hwork, -, hsession⟩ := hcarries.run
    -- the errand begins with the draft that the step began with
    have hdraft : e.draft = step.editor.draft := congrArg Work.draft hsame
    rw [hsession, ← hdraft] at hunclaimed
    rw [hwork, hsession]
    exact errand_current (hsame ▸ hsettled) hclock hconsistent (houtside errand herrand) hunclaimed
      (hsame ▸ hcurrent)

/-! ## 3. Runs -/

namespace Rules

/-- As `shared`, but no other program touches the disk, and the ids that are made are not that of
the open draft. -/
def solitary (home : Location) : Rules where
  begins := (shared home).begins
  passes := Elapses
  allows step := (shared home).allows step ∧
    Unclaimed step.editor.draft.id step.session step.after.2

instance (home : Location) (step : Step) : Decidable ((solitary home).allows step) :=
  inferInstanceAs (Decidable ((shared home).allows step ∧
    Unclaimed step.editor.draft.id step.session step.after.2))

end Rules

/-- An editor that is solitary shares its files with whole commands at most. -/
theorem Run.shared_of_solitary (h : Run (.solitary home) log s e) : Run (.shared home) log s e :=
  h.mono (fun _ _ hbegins => hbegins) (fun _ _ => .inl) fun _ hallows => hallows.1

/-- **The draft that is shown is the one in its file**, if it is still there. -/
theorem Run.current (h : Run (.solitary home) log s e) : Current s e.work := by
  induction h with
  | @start _ _ _ s after e hbegins hends =>
    obtain ⟨hroot, hconsistent, hclock⟩ := hbegins
    obtain ⟨-, hsettled, hheld⟩ := start_frame hroot hends
    obtain ⟨preset, _, -, -, he⟩ := start_ends hends
    -- an editor starts with the draft as it was loaded
    have hclean : e.work.dirty = false := by
      rw [he]
      rfl
    exact .of_held hsettled.store hclean (hheld hconsistent hclock)
  | step hrun _ event hallows ih =>
    obtain ⟨hsettled, hconsistent⟩ := hrun.shared_of_solitary.consistent
    obtain ⟨⟨hclock, houtside⟩, hunclaimed⟩ := hallows
    exact Step.current hsettled hconsistent hclock houtside hunclaimed ih
  | pass _ hpasses ih =>
    obtain ⟨now, ticks, rfl⟩ := hpasses
    exact ⟨ih.folder, ih.draft⟩

/-! ## 4. The store -/

/-- The store is the one of the preset, in the directory that the settings say. -/
def Placed (w : Work) : Prop := w.store = Store.ofPreset w.settings.draftRoot w.preset

/-- What is fetched comes from the store of its preset. -/
theorem fetch_placed (hplaced : Placed e.work) (h : errand.fetch? e = some fetch)
    (hends : fetch.Ends s (.ok opened) after) : Placed (e.work.shown opened) := by
  -- but for another preset the store stays
  have hsame : ∀ {task : Task (Stop StoreError) Drafts.Draft},
      Ends (Opened.mk e.preset e.store <$> task) s (.ok opened) after →
        Placed (e.work.shown opened) := by
    intro task hends
    obtain ⟨result, -, hresult⟩ := Task.ends_map.1 hends
    cases result with
    | error problem => cases hresult
    | ok draft =>
      rw [Except.ok.inj hresult]
      exact hplaced
  cases errand with
  | preset id =>
    obtain ⟨preset, -, rfl⟩ := Option.map_eq_some_iff.1 h
    obtain ⟨result, hends, hresult⟩ := Task.ends_map.1 hends
    cases result with
    | error problem => cases hresult
    | ok pair =>
      obtain ⟨store, _, hopen, hends⟩ := Task.ends_bind_ok.1 (Task.ends_mapError_ok.1 hends)
      obtain ⟨_, _, -, hends⟩ := Task.ends_bind_ok.1 hends
      rw [Except.ok.inj hresult, Except.ok.inj (Task.ends_pure.1 hends).1]
      exact Drafts.openFor_store hopen
  | openDraft | newDraft | saveAs | delete =>
    obtain rfl := Option.some.inj h
    exact hsame hends
  | _ => cases h

/-- Every errand leaves the store that of the preset: it stays, or is fetched along with the
preset. -/
theorem errand_placed (hplaced : Placed e.work) : Placed ((errand.run e).run s).1.work := by
  have hfirst : Placed (errand.begin e s).1.work := by
    rcases errand.begin_cases e s with ⟨-, hsaved⟩ | ⟨-, hbegin⟩
    · obtain ⟨_, _, _, hwork⟩ := hsaved.work_eq
      rw [hwork]
      exact hplaced
    · rw [hbegin]
      exact hplaced
  cases hfetch : errand.fetch? (errand.begin e s).1 with
  | some fetch =>
    obtain ⟨result, after, hends, hfetched, -⟩ := Errand.run_of_fetch hfetch
    cases hfetched with
    -- what failed to be fetched changes neither of the two
    | failed hwork => rwa [hwork]
    | panicked hwork =>
      rw [hwork]
      exact hfirst
    | shown hwork =>
      rw [hwork]
      exact fetch_placed hfirst hfetch hends
  | none =>
    obtain ⟨⟨settings, hroot, hwork⟩, -⟩ := Errand.run_of_no_fetch hfetch
    rw [hwork, Placed, hroot]
    exact hfirst

/-- **The open store is that of the preset**, whatever the surroundings do. -/
theorem Run.placed (h : Run rules log s e) : Placed e.work := by
  induction h with
  | start _ hends =>
    obtain ⟨preset, _, hopen, -, he⟩ := start_ends hends
    rw [he]
    exact Drafts.openFor_store hopen
  | @step log s e _ _ event _ ih =>
    -- only an errand can open another store
    rcases Step.after_cases ⟨event, s, e⟩ with ⟨-, hnone⟩ | ⟨errand, -, hcarries⟩
    · rcases hnone.work with hwork | ⟨content, hwork⟩
      · rwa [hwork]
      · rw [hwork]
        exact ih
    · obtain ⟨e₀, hsame, hwork, -, -⟩ := hcarries.run
      rw [hwork]
      exact errand_placed (hsame ▸ ih)
  | pass _ _ ih => exact ih

end MarkupDesk.Editor
