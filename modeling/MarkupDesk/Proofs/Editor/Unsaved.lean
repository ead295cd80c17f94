/-
`Proofs/Editor/Unsaved.lean` -- what becomes of a content that was changed.

A content that was changed goes out of the editor in two ways: it is saved, and the draft stays
open or another one takes its place; or it is what a new draft is made of. In both cases it is in
the document of some draft then, whatever other programs have done to the disk before
(`run_stored`), unless its save has failed. A save that fails does not keep the editor from
showing another draft, so then the content is lost (`content_lost`).
-/
import MarkupDesk.Proofs.Editor.Coherence
import MarkupDesk.Proofs.Editor.Isolation

set_option autoImplicit false

namespace MarkupDesk.Editor

open Drafts (Content Draft Frame IsDocument Store StoreError Untouched readDocument readDraft spot)
open Files (Disk Location)
open MarkupDesk.Task (Ends)

variable {home : Location} {e e' : Editor} {s s' after : Session} {log : List Step}
  {errand : Errand} {content : Content} {fetch : Task (Stop StoreError) Opened} {opened : Opened}

/-! ## 1. Contents in documents -/

/-- The content is that of a draft in some document. -/
def Stored (home : Location) (content : Content) (s : Session) : Prop :=
  ∃ presetId id t draft, s.disk.file? (spot home presetId id) = some (.text t) ∧
    readDocument t = some draft ∧ draft.content = content

/-- A draft that is read is in a document. -/
theorem stored_of_readDraft {store : Store} {id : Text} {draft : Draft} (hin : store.In home s.cwd)
    (hread : readDraft s store id = some draft) : Stored home draft.content s := by
  obtain ⟨-, -, t, ht, hdocument⟩ := (Drafts.readDraft_eq_some_iff hin).1 hread
  exact ⟨store.presetId, id, t, draft, ht, hdocument, rfl⟩

/-- Where no document is touched that was there, every content stays. -/
theorem Stored.mono (h : Stored home content s) (hframe : Frame home Untouched s after)
    (hnew : NewIds home s after) : Stored home content after := by
  obtain ⟨presetId, id, t, draft, ht, hread⟩ := h
  have hx := Drafts.isDocument_spot home presetId id
  have hstays := (hnew.document_cases hframe hx ht).resolve_right fun hfalse => hfalse.elim
  exact ⟨presetId, id, t, draft, hstays, hread⟩

/-- **A save that has a result** stores the content. -/
theorem Saved.stored (h : Saved e s e' s') (hsettled : Settled home s.cwd e.work)
    (hclock : s.now.Proper) (hdirty : e.dirty = true) (hsave : ¬ e.work.SaveFails s) :
    Stored home e.content s' := by
  rw [← h.dirty_iff] at hsave
  cases h with
  | clean hclean => exact absurd (hdirty.symm.trans hclean) Bool.noConfusion
  -- a failing save leaves the text unsaved, and this one does not fail
  | failed _ _ _ hwork => exact absurd ((congrArg Work.dirty hwork).trans hdirty) hsave
  | written _ hsave =>
    rcases Drafts.autosave_cases hsettled.store hsave with
      ⟨-, hresult, -⟩ | ⟨old, -, hframe, ⟨_, _, hresult⟩ | ⟨-, hread⟩⟩
    · cases hresult
    · cases hresult
    · -- the text is stored because the draft that was written reads back as it is
      have hin : e.store.In home s'.cwd := hframe.cwd_eq.symm ▸ hsettled.store
      exact stored_of_readDraft hin (hread hclock)

/-- An errand that fetches a draft without a save has deleted one or made one of the content.
The others save before they fetch, because the content would be gone otherwise. -/
theorem fetch_stored (hsettled : Settled home s.cwd e.work) (hclock : s.now.Proper)
    (hsaves : errand.saves e.work = false) (hdelete : errand ≠ .delete)
    (h : errand.fetch? e = some fetch) (hends : fetch.Ends s (.ok opened) after) :
    Stored home e.content after := by
  cases errand with
  -- the content goes into the new draft, which is read afterwards
  | saveAs name =>
    obtain rfl := Option.some.inj h
    obtain ⟨outcome, hcertain, hopened⟩ := Task.ends_map.1 hends
    cases outcome with
    | error stop => cases hopened
    | ok draft =>
      have houtcome := Task.ends_mapError_ok.1 hcertain
      have hmade : Drafts.Written (.ok draft : Except StoreError Draft) := trivial
      have hin : e.store.In home s.cwd := hsettled.store
      rcases Drafts.saveAs_written hin hclock hmade houtcome with
        ⟨hresult, -⟩ | ⟨_, hresult, hcontent, hread⟩
      · cases hresult
      · have hcwd := ((Drafts.saveAs_frame hin name e.content).ends rfl houtcome).cwd_eq
        rw [← hcontent]
        exact stored_of_readDraft (hcwd.symm ▸ hin) hread
  | delete => exact absurd rfl hdelete
  -- a preset that is there is one that is saved for
  | preset id =>
    obtain ⟨preset, hpreset, -⟩ := Option.map_eq_some_iff.1 h
    have hpreset' : e.work.catalog.get? id = some preset := hpreset
    rw [Errand.saves, hpreset'] at hsaves
    cases hsaves
  | openDraft | newDraft => cases hsaves
  | _ => cases h

/-- **An errand behind which a changed content counts as saved** has stored it, unless it
deletes the draft or its save fails. Either it was saved first, and what is fetched then does
not touch it, or it was made into the draft that is shown. -/
theorem errand_stored (hsettled : Settled home s.cwd e.work) (hclock : s.now.Proper)
    (hdirty : e.dirty = true) (hdelete : errand ≠ .delete)
    (hsave : errand.saves e.work = true → ¬ e.work.SaveFails s)
    (hnew : NewIds home (errand.begin e s).2 ((errand.run e).run s).2)
    (hclean : ((errand.run e).run s).1.work.dirty = false) :
    Stored home e.content ((errand.run e).run s).2 := by
  rcases errand.begin_cases e s with ⟨hsaves, hsaved⟩ | ⟨hsaves, hbegin⟩
  -- the errand begins with a save, and what it fetches behind that leaves the document
  · have hfirst : Stored home e.content (errand.begin e s).2 :=
      hsaved.stored hsettled hclock hdirty (hsave hsaves)
    have hsettled' : Settled home (errand.begin e s).2.cwd (errand.begin e s).1.work :=
      (errand.begin_cwd e s).symm ▸ errand.begin_settled hsettled
    cases hfetch : errand.fetch? (errand.begin e s).1 with
    | some fetch =>
      obtain ⟨result, after, hends, -, hafter⟩ := Errand.run_of_fetch hfetch
      rw [hafter] at hnew ⊢
      exact hfirst.mono ((fetch_frame_of_ne hsettled' hfetch hdelete).ends rfl hends) hnew
    | none =>
      cases errand with
      | save => exact hfirst
      | preset id =>
        rw [Errand.fetch?, Option.map_eq_none_iff, Errand.begin_catalog] at hfetch
        have hnone : e.work.catalog.get? id = none := hfetch
        rw [Errand.saves, hnone] at hsaves
        cases hsaves
      | openDraft | newDraft | saveAs | delete => cases hfetch
      | _ => cases hsaves
  · cases hfetch : errand.fetch? (errand.begin e s).1 with
    | some fetch =>
      obtain ⟨result, after, hends, hfetched, hafter⟩ := Errand.run_of_fetch hfetch
      rw [hbegin] at hfetch hends hfetched
      rw [hafter]
      cases hfetched with
      | shown => exact fetch_stored hsettled hclock hsaves hdelete hfetch hends
      -- nothing was taken up, so the content is still changed
      | failed hwork | panicked hwork =>
        rw [hwork] at hclean
        exact absurd (hdirty.symm.trans hclean) Bool.noConfusion
    | none =>
      obtain ⟨⟨settings, -, hwork⟩, -⟩ := Errand.run_of_no_fetch hfetch
      rw [hbegin] at hwork
      rw [hwork] at hclean
      exact absurd (hdirty.symm.trans hclean) Bool.noConfusion

/-! ## 3. Runs -/

/-- The ids that the step makes, behind the save that it may begin with, are those of no document
that is there then. -/
def Step.Fresh (home : Location) (step : Step) : Prop :=
  ∀ errand, step.errand? = some errand →
    NewIds home (errand.begunSession step.session step.editor.work) step.after.2

theorem Step.fresh_of_eq {step : Step} (h : ∀ errand ∈ step.errand?, step.after.2.nextToken =
    (errand.begunSession step.session step.editor.work).nextToken) : step.Fresh home :=
  fun errand herrand => newIds_of_eq (h errand herrand)

theorem Step.not_saveFails {step : Step}
    (h : (step.editor.saveNow.run step.session).1.work.dirty = false) : ¬ step.SaveFails := by
  rintro ⟨_, -, -, hfails⟩
  have hdirty := (saved_saveNow step.editor step.session).dirty_iff.2 hfails
  exact absurd (hdirty.symm.trans h) Bool.noConfusion

/-- **A content that was changed is not lost.** Let the drafts be below `home`, and let other
programs have done to the disk what they like. Behind a step that leaves nothing changed, be it
that the draft was saved or that another one was opened, made or taken up with another preset,
the content that was changed before is that of a draft in some document, unless the draft was
deleted as was confirmed or the save that the step began with has failed. -/
theorem run_stored (step : Step) (h : Run (.disturbed home) log step.session step.editor)
    (hclock : step.session.now.Proper) (hfresh : step.Fresh home)
    (hdirty : step.editor.dirty = true) (hclean : step.after.1.dirty = false)
    (hdelete : step.errand? ≠ some .delete) (hsave : ¬ step.SaveFails) :
    Stored home step.editor.content step.after.2 := by
  have hsettled := h.settled_of_disturbed
  -- without an errand a step can change the content, but leaves the mark that it is changed
  rcases step.after_cases with ⟨-, hnone⟩ | ⟨errand, herrand, hcarries⟩
  · rcases hnone.work with hwork | ⟨content, hwork⟩
    · exact absurd (hdirty.symm.trans ((congrArg Work.dirty hwork).symm.trans hclean))
        Bool.noConfusion
    · exact absurd ((congrArg Work.dirty hwork).symm.trans hclean) Bool.noConfusion
  · obtain ⟨e₀, hsame, hwork, -, hsession⟩ := hcarries.run
    have hcontent : e₀.content = step.editor.content := congrArg Work.content hsame
    have hnew := hfresh errand herrand
    rw [hsession] at hnew ⊢
    rw [← hcontent]
    refine errand_stored (hsame ▸ hsettled) hclock ((congrArg Work.dirty hsame).trans hdirty)
      (fun heq => hdelete (heq ▸ herrand)) (fun hsaves hfails => hsave ?_) ?_
      ((congrArg Work.dirty hwork).symm.trans hclean)
    · rw [hsame] at hsaves hfails
      exact ⟨errand, herrand, hsaves, hfails⟩
    · rw [errand.begin_session, hsame]
      exact hnew

/-- A second draft is made, a character is typed there, and the list of drafts is shown. -/
def listingEvents : List Event :=
  [.command (.newDraft "Notes"), .key 20 ⟨.char 'x', false⟩, .key 20 ⟨.char 'd', true⟩,
    .key 20 ⟨.down, false⟩]

/-- The first draft is chosen then. -/
def openingStep : Step :=
  stepBehind listingEvents (.key 20 ⟨.enter, false⟩) firstSession firstEditor

/-- The character is in the document of the second draft behind that. -/
theorem run_stored_opening : Stored firstHome openingStep.editor.content openingStep.after.2 := by
  have hfacts :
      (∀ step ∈ steps listingEvents firstSession firstEditor, (Rules.shared firstHome).allows step) ∧
      openingStep.session.now.Proper ∧ openingStep.editor.dirty = true ∧
      openingStep.after.1.dirty = false ∧ openingStep.errand? ≠ some .delete ∧
      (openingStep.editor.saveNow.run openingStep.session).1.work.dirty = false ∧
      ∀ errand ∈ openingStep.errand?, openingStep.after.2.nextToken =
        (errand.begunSession openingStep.session openingStep.editor.work).nextToken := by
    decide +kernel
  obtain ⟨hbefore, hclock, hdirty, hclean, hdelete, hsave, htoken⟩ := hfacts
  exact run_stored openingStep (run_first.shared.stepBehind hbefore _).disturbed hclock
    (Step.fresh_of_eq htoken) hdirty hclean hdelete (Step.not_saveFails hsave)

/-! ## 4. A loss -/

/-- The draft that an entry of the disk is, if it is one. -/
def entryDraft : Files.Entry → Option Draft
  | .file (.text t) => readDocument t
  | _ => none

theorem not_stored (h : ∀ entry ∈ s.disk.entries, ∀ draft ∈ entryDraft entry.2,
    draft.content ≠ content) : ¬ Stored home content s := by
  rintro ⟨presetId, id, t, draft, hfile, hread, hcontent⟩
  have hplace : spot home presetId id ≠ [] := by simp [spot]
  have hlookup := Disk.file?_eq_some.1 hfile
  rw [Disk.lookup, if_neg hplace] at hlookup
  exact h _ (Dictionary.mem_of_get?_eq_some hlookup) draft hread hcontent

/-- Another program removes the document of the draft before the step. -/
def Step.robbed (home : Location) (step : Step) : Step :=
  { step with session := { step.session with
      disk := step.session.disk.erase (step.editor.work.spot home) } }

theorem Run.robbed {step : Step} (h : Run (.disturbed home) log step.session step.editor) :
    Run (.disturbed home) log (step.robbed home).session (step.robbed home).editor := h.pass rfl

/-- A character is typed into the first draft. -/
def typingEvents : List Event := [.key 20 ⟨.char 'x', false⟩]

/-- A new draft is made when the document of the first one is gone. -/
def losingStep : Step :=
  (stepBehind typingEvents (.command (.newDraft "Notes")) firstSession firstEditor).robbed firstHome

/-- **A content is lost** whose document was removed: its save fails, and yet a new draft takes
its place. -/
theorem content_lost :
    ∃ (log : List Step) (step : Step), Run (.disturbed firstHome) log step.session step.editor ∧
      step.editor.dirty = true ∧ step.errand? = some (.newDraft "Notes") ∧
      step.after.1.dirty = false ∧ step.after.1.content ≠ step.editor.content ∧
      ¬ Stored firstHome step.editor.content step.after.2 := by
  have hfacts :
      (∀ step ∈ steps typingEvents firstSession firstEditor, (Rules.shared firstHome).allows step) ∧
      losingStep.editor.dirty = true ∧ losingStep.errand? = some (.newDraft "Notes") ∧
      losingStep.after.1.dirty = false ∧ losingStep.after.1.content ≠ losingStep.editor.content ∧
      ∀ entry ∈ losingStep.after.2.disk.entries, ∀ draft ∈ entryDraft entry.2,
        draft.content ≠ losingStep.editor.content := by decide +kernel
  obtain ⟨hbefore, hdirty, herrand, hclean, hcontent, hentries⟩ := hfacts
  exact ⟨_, losingStep, (run_first.shared.stepBehind hbefore _).disturbed.robbed, hdirty, herrand,
    hclean, hcontent, not_stored hentries⟩

end MarkupDesk.Editor
