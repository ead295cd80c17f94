/-
`Proofs/Editor/Coherence.lean` -- what the editor shows about saving is so.

Whether the content was changed, what is shown about saving and the time of the next save are
kept apart from the content, and they agree with it in every run (`Coherent`): without changes
the content is that of the draft, and a save is set only for changes. It is set for all of them,
too, unless a save has failed since the last change (`Run.scheduled`). Where the editor is alone
with its files and they can be written, the draft is the one that is read from its file.
-/
import MarkupDesk.Proofs.Editor.Run

set_option autoImplicit false

namespace MarkupDesk.Editor

open Drafts (Draft readDraft)
open Files (Location)

variable {home : Location} {rules : Rules} {e e' : Editor} {s s' : Session} {w : Work}
  {log : List Step} {step : Step} {errand : Errand}

/-! ## 1. Coherence -/

/-- What is kept about changes agrees with the content and the draft. -/
structure Coherent (w : Work) : Prop where
  content : w.dirty = false → w.content = w.draft.content
  mark : w.mark = .dirty ↔ w.dirty = true
  deadline : w.deadline.isSome = true → w.dirty = true

namespace Coherent

/-- Neither the settings nor a panic have to do with what is saved. -/
theorem aside (h : Coherent w) (settings : Settings) (panicked : Option Panic) :
    Coherent { w with settings := settings, panicked := panicked } :=
  ⟨h.content, h.mark, h.deadline⟩

/-- A draft that is shown has the content that it was read with, and nothing is to be
saved. -/
theorem shown (w : Work) (opened : Opened) : Coherent (w.shown opened) :=
  ⟨fun _ => rfl, ⟨SaveMark.noConfusion, Bool.noConfusion⟩, Bool.noConfusion⟩

/-- A change sets the mark and the time of the next save along with the content. -/
theorem changed (w : Work) (ticks : Nat) (content : Drafts.Content) :
    Coherent (w.changed ticks content) :=
  ⟨Bool.noConfusion, ⟨fun _ => rfl, fun _ => rfl⟩, fun _ => rfl⟩

/-- A save without a result leaves the changes and takes the time away. -/
theorem unscheduled (h : Coherent w) : Coherent { w with deadline := none } :=
  ⟨h.content, h.mark, Bool.noConfusion⟩

/-- A save that succeeds takes the content over into the draft; one that fails leaves the mark
and takes the time away, so that it is not tried again and again. -/
theorem saved (h : Saved e s e' s') (hcoherent : Coherent e.work) : Coherent e'.work := by
  cases h with
  | clean _ hwork =>
    rw [hwork]
    exact hcoherent.unscheduled
  | failed _ _ _ hwork =>
    rw [hwork]
    exact hcoherent.unscheduled
  | written _ hsave hwork =>
    obtain ⟨old, -, rfl⟩ := Drafts.autosave_ok hsave
    rw [hwork]
    exact ⟨fun _ => rfl, ⟨SaveMark.noConfusion, Bool.noConfusion⟩, Bool.noConfusion⟩

/-- An errand saves, fetches and shows; each of the three ends in a coherent state. -/
theorem run (hcoherent : Coherent e.work) (errand : Errand) (s : Session) :
    Coherent ((errand.run e).run s).1.work := by
  have hbegin : Coherent (errand.begin e s).1.work := by
    rcases errand.begin_cases e s with ⟨-, hsaved⟩ | ⟨-, hbegin⟩
    · exact saved hsaved hcoherent
    · rw [hbegin]
      exact hcoherent
  rcases errand.work_run e s with ⟨settings, panicked, hwork⟩ | ⟨opened, hwork⟩
  · rw [hwork]
    exact hbegin.aside settings panicked
  · rw [hwork]
    exact shown _ opened

end Coherent

/-- **A step keeps to coherence.** -/
theorem Step.coherent (h : Coherent step.editor.work) : Coherent step.after.1.work := by
  rcases step.after_cases with ⟨-, hnone⟩ | ⟨errand, -, hcarries⟩
  · rcases hnone.work with hwork | ⟨content, hwork⟩
    · rwa [hwork]
    · rw [hwork]
      exact .changed _ _ content
  · obtain ⟨e, hsame, hwork, -, -⟩ := hcarries.run
    rw [hwork]
    exact Coherent.run (hsame ▸ h) errand step.session

/-- So the editor is coherent in every run, whatever other programs do to its files. -/
theorem Run.coherent (h : Run rules log s e) : Coherent e.work := by
  induction h with
  | start _ hends =>
    obtain ⟨preset, _, -, -, he⟩ := start_ends hends
    rw [he]
    exact ⟨fun _ => rfl, ⟨SaveMark.noConfusion, Bool.noConfusion⟩, Bool.noConfusion⟩
  | step _ _ event _ ih => exact Step.coherent ih
  | pass _ _ ih => exact ih

/-! ## 2. The next save -/

/-- The step changes the content. -/
def Step.Changes (step : Step) : Prop :=
  ∃ content, step.after.1.work = step.editor.work.changed step.session.ticks content

/-- The step saves the content, and that fails. -/
def Step.SaveFails (step : Step) : Prop :=
  ∃ errand, step.errand? = some errand ∧ errand.saves step.editor.work = true ∧
    step.editor.work.SaveFails step.session

/-- A save has failed since the content was changed last. -/
def SaveFailedSince : List Step → Prop
  | [] => False
  | step :: log => step.SaveFails ∨ ¬ step.Changes ∧ SaveFailedSince log

/-- A save is set for the changes, unless one has failed since the last of them. -/
def Scheduled (log : List Step) (w : Work) : Prop :=
  w.dirty = true → ¬ SaveFailedSince log → w.deadline.isSome = true

/-- **A step schedules its changes.** A step that changes the content sets the next save; one
that does not leaves it set, unless its own save has failed. -/
theorem Step.scheduled (h : Scheduled log step.editor.work) :
    Scheduled (step :: log) step.after.1.work := by
  intro hdirty hnot
  obtain ⟨hsave, hsince⟩ := not_or.1 hnot
  by_cases hchanges : step.Changes
  · obtain ⟨content, hwork⟩ := hchanges
    rw [hwork]
    rfl
  have hbefore : step.editor.work.dirty = true → step.editor.work.deadline.isSome = true :=
    fun hdirty => h hdirty fun hfailed => hsince ⟨hchanges, hfailed⟩
  rcases step.after_cases with ⟨-, hnone⟩ | ⟨errand, herrand, hcarries⟩
  · rcases hnone.work with hwork | ⟨content, hwork⟩
    · rw [hwork] at hdirty ⊢
      exact hbefore hdirty
    · exact absurd ⟨content, hwork⟩ hchanges
  · obtain ⟨e, hsame, hwork, -, -⟩ := hcarries.run
    rw [hwork] at hdirty ⊢
    -- an errand either saved, and then it is the one whose save has failed, or left the time alone
    rcases errand.dirty_cases e step.session hdirty with ⟨hsaves, hfails⟩ | ⟨hstill, hdeadline⟩
    · rw [hsame] at hsaves hfails
      exact absurd ⟨errand, herrand, hsaves, hfails⟩ hsave
    · rw [hsame] at hstill hdeadline
      rw [hdeadline]
      exact hbefore hstill

/-- In a run a change is scheduled unless a save has failed since. -/
theorem Run.scheduled (h : Run rules log s e) : Scheduled log e.work := by
  induction h with
  | start _ hends =>
    obtain ⟨preset, _, -, -, he⟩ := start_ends hends
    rw [he]
    exact fun hdirty => absurd hdirty Bool.noConfusion
  | step _ _ event _ ih => exact Step.scheduled ih
  | pass _ _ ih => exact ih

/-! ## 3. The file of the draft -/

/-- **Alone with its files** the editor shows the draft that is read from its file. -/
theorem Run.held (h : Run (.alone home) log s e) : Held s e.work := by
  induction h with
  | start hbegins hends =>
    obtain ⟨hroot, hconsistent, hclock⟩ := hbegins
    exact (start_frame hroot hends).2.2 hconsistent hclock
  | step hrun _ event hallows ih =>
    obtain ⟨hsettled, hconsistent⟩ := hrun.shared.consistent
    obtain ⟨⟨hclock, houtside⟩, hunfailed⟩ := hallows
    exact Step.held hsettled hconsistent hclock houtside hunfailed ih
  | pass _ hpasses ih =>
    obtain ⟨now, ticks, rfl⟩ := hpasses
    exact ih

/-- **What the editor shows about saving.** In every run: a content that is not changed is that
of the draft; what is shown tells whether it is changed; a save is set only for a content that is
changed, and it is set unless a save has failed since the last change. And where the editor is
alone with its files, which can be written, and every document has been in the file of its id
from the start, a content that is not changed is that of a draft that is read from its file. -/
theorem run_coherent (log : List Step) (s : Session) (e : Editor) :
    (∀ rules, Run rules log s e →
      (e.dirty = false → e.content = e.draft.content) ∧
      (e.mark = .dirty ↔ e.dirty = true) ∧
      (e.deadline.isSome = true → e.dirty = true) ∧
      (e.dirty = true → ¬ SaveFailedSince log → e.deadline.isSome = true)) ∧
    ∀ home, Run (.alone home) log s e → e.dirty = false →
      (e.store.get? e.draft.id).run s = (some e.draft, s) := by
  refine ⟨fun rules h => ?_, fun home h hclean => ?_⟩
  · have hcoherent := h.coherent
    exact ⟨hcoherent.content, hcoherent.mark, hcoherent.deadline, h.scheduled⟩
  · have hread : readDraft s e.store e.draft.id = some e.draft := h.held hclean
    rw [← hread]
    rfl

/-- A character is typed and saved. -/
def savingEvents : List Event := [.prepare (80, 24), .key 20 ⟨.char 'x', false⟩, .command .save]

/-- Behind the save the draft with the character is read from its file. -/
theorem run_coherent_saving :
    (behind savingEvents firstSession firstEditor).1.dirty = false ∧
      (behind savingEvents firstSession firstEditor).1.content =
        (behind savingEvents firstSession firstEditor).1.draft.content ∧
      ((behind savingEvents firstSession firstEditor).1.store.get?
          (behind savingEvents firstSession firstEditor).1.draft.id).run
          (behind savingEvents firstSession firstEditor).2 =
        (some (behind savingEvents firstSession firstEditor).1.draft,
          (behind savingEvents firstSession firstEditor).2) := by
  have hrun : Run (.alone firstHome) (steps savingEvents firstSession firstEditor ++ [])
      (behind savingEvents firstSession firstEditor).2
      (behind savingEvents firstSession firstEditor).1 := run_first.events (by decide +kernel)
  have hclean : (behind savingEvents firstSession firstEditor).1.dirty = false := by decide +kernel
  have hcoherent := run_coherent (steps savingEvents firstSession firstEditor ++ [])
    (behind savingEvents firstSession firstEditor).2 (behind savingEvents firstSession firstEditor).1
  exact ⟨hclean, (hcoherent.1 _ hrun).1 hclean, hcoherent.2 _ hrun hclean⟩

end MarkupDesk.Editor
