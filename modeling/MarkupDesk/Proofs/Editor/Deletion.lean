/-
`Proofs/Editor/Deletion.lean` -- which draft is deleted.

A draft is deleted by a command, and only while a question is in force that an earlier command
has asked about the draft that was open then. Every other command puts the question out of force,
so between the two there are keys and saves only. Of the keys one alone opens another draft: the
one that chooses from the list of drafts. A save goes on with the draft that it finds in the
document of the open one, which is another draft if the document is not in the file of its id.
Unless one of the two was done the draft that is deleted is the one that the question named,
whatever other programs do (`run_deletion`). Choosing does not put the question out of force, so
a draft that was chosen behind the question is deleted unasked (`deletion_unasked`).
-/
import MarkupDesk.Proofs.Editor.Isolation

set_option autoImplicit false

namespace MarkupDesk.Editor

open Drafts (IsDocument)
open Files (Location)

variable {home : Location} {e : Editor} {s : Session} {log : List Step} {step : Step}
  {errand : Errand}

/-! ## 1. Questions -/

/-- The step that asked last whether to delete the open draft. -/
def lastQuestion : List Step → Option Step
  | [] => none
  | step :: log => if step.command? = some .askDelete then some step else lastQuestion log

/-- A draft is chosen from the list of drafts, or one is saved whose document is not in the file
of its id. -/
def Step.Turns (home : Location) (step : Step) : Prop :=
  (∃ id, step.errand? = some (.openDraft id)) ∨ ¬ step.Filed home

/-- One of that was done since the question was asked. -/
def TurnedSince (home : Location) : List Step → Prop
  | [] => False
  | step :: log => step.command? ≠ some .askDelete ∧ (step.Turns home ∨ TurnedSince home log)

/-- A question that is in force was asked, and it was about the draft that is open, unless the
editor has turned to another one since. -/
def Asked (home : Location) (log : List Step) (e : Editor) : Prop :=
  e.deleteAsked = true → ∃ question, lastQuestion log = some question ∧
    (¬ TurnedSince home log → e.work.spot home = question.editor.work.spot home)

/-! ## 2. Steps -/

/-- A key runs an errand that fetches no draft, or opens one that was chosen. The five errands
of control keys save or write at most; a command given by Enter is none of these keys. -/
theorem errand_of_key {ticks : Nat} {event : Event} (hcommand : event.command? e = none)
    (h : event.errand? ticks e = some errand) :
    (∃ id, errand = .openDraft id) ∨ ∀ e', errand.fetch? e' = none := by
  have hcontrol : ∀ {code : KeyCode}, controlErrand? code = some errand →
      ∀ e', errand.fetch? e' = none := by
    intro code hcode e'
    unfold controlErrand? at hcode
    split at hcode
    · exact Option.some.inj hcode ▸ rfl
    · exact Option.some.inj hcode ▸ rfl
    · exact Option.some.inj hcode ▸ rfl
    · exact Option.some.inj hcode ▸ rfl
    · exact Option.some.inj hcode ▸ rfl
    · cases hcode
  cases event with
  | prepare size => cases h
  | leave => exact .inr fun e' => Option.some.inj h ▸ rfl
  | command command => cases hcommand
  | autosave =>
    simp only [Event.errand?] at h
    split at h
    · exact .inr fun e' => Option.some.inj h ▸ rfl
    · cases h
  | key rows key =>
    cases hmode : e.mode with
    | insert =>
      simp only [Event.errand?, hmode] at h
      split at h
      · cases h
      split at h
      · exact .inr (hcontrol h)
      · cases h
    | command =>
      simp only [Event.errand?, Event.command?, hmode, true_and] at h hcommand
      split at h
      next henter =>
        rw [if_pos henter] at hcommand
        cases hcommand
      next => cases h
    -- the one key that opens another draft
    | picker =>
      simp only [Event.errand?, hmode] at h
      split at h
      · obtain ⟨summary, -, rfl⟩ := Option.map_eq_some_iff.1 h
        exact .inl ⟨summary.id, rfl⟩
      · cases h

/-- An errand that fetches no draft stays with the document of the open one. -/
theorem errand_spot (hsettled : Settled home s.cwd e.work) (hfiled : errand.Filed home s e.work)
    (h : errand.fetch? (errand.begin e s).1 = none) :
    ((errand.run e).run s).1.work.spot home = e.work.spot home := by
  obtain ⟨⟨settings, -, hwork⟩, -⟩ := Errand.run_of_no_fetch h
  rw [hwork]
  exact Errand.begin_spot hsettled hfiled

/-- **A step keeps the question apart**, or puts it out of force, or asks it. -/
theorem Step.asked (hsettled : Settled home step.session.cwd step.editor.work)
    (h : Asked home log step.editor) : Asked home (step :: log) step.after.1 := by
  intro hasked
  -- a step that is no command is no question, so the last question stays the one before it
  have hkeys : step.command? = none → step.editor.deleteAsked = true →
      (¬ step.Turns home → step.after.1.work.spot home = step.editor.work.spot home) →
      ∃ question, lastQuestion (step :: log) = some question ∧
        (¬ TurnedSince home (step :: log) →
          step.after.1.work.spot home = question.editor.work.spot home) := by
    intro hcommand hbefore hspot
    obtain ⟨question, hquestion, hplace⟩ := h hbefore
    have hno : step.command? ≠ some .askDelete := fun heq => nomatch hcommand.symm.trans heq
    refine ⟨question, ?_, fun hturned => ?_⟩
    · rw [lastQuestion, if_neg hno]
      exact hquestion
    · rw [hspot fun hturns => hturned ⟨hno, .inl hturns⟩]
      exact hplace fun hsince => hturned ⟨hno, .inr hsince⟩
  rcases step.after_cases with ⟨-, hnone⟩ | ⟨errand, herrand, hcarries⟩
  · rcases hnone.asked hasked with ⟨hcommand, hwork⟩ | ⟨hcommand, hbefore⟩
    · refine ⟨step, if_pos hcommand, fun _ => ?_⟩
      rw [hwork]
    · refine hkeys hcommand hbefore fun _ => ?_
      rcases hnone.work with hwork | ⟨content, hwork⟩
      · rw [hwork]
      · rw [hwork]
        rfl
  · obtain ⟨hcommand, hbefore⟩ := hcarries.asked hasked
    refine hkeys hcommand hbefore fun hturns => ?_
    obtain ⟨hchosen, hfiled⟩ := not_or.1 hturns
    have hfiled' := Classical.not_not.1 hfiled errand herrand
    rcases errand_of_key hcommand herrand with ⟨id, rfl⟩ | hfetch
    · exact absurd ⟨id, herrand⟩ hchosen
    · obtain ⟨e₀, hsame, hwork, -, -⟩ := hcarries.run
      rw [← hsame] at hsettled hfiled' ⊢
      rw [hwork]
      exact errand_spot hsettled hfiled' (hfetch _)

/-- In every run the question that is in force is the last one that was asked, and the draft
that it named is still open, unless the run was turned since. -/
theorem Run.asked (h : Run (.disturbed home) log s e) : Asked home log e := by
  induction h with
  | start _ hends =>
    obtain ⟨preset, _, -, -, he⟩ := start_ends hends
    rw [he]
    exact fun hasked => absurd hasked Bool.noConfusion
  | step hrun _ event _ ih => exact Step.asked hrun.settled_of_disturbed ih
  | pass _ _ ih => exact ih

/-! ## 3. Deletions -/

/-- Only a question that is in force allows to delete. The errand comes from a command, typed
or given by a key; no key has it as its own. -/
theorem asked_of_delete {ticks : Nat} {event : Event}
    (h : event.errand? ticks e = some .delete) : e.deleteAsked = true := by
  have hcommand : ∀ {command : Command}, command.errand? e.deleteAsked = some .delete →
      e.deleteAsked = true := by
    intro command h
    cases command with
    | delete =>
      simp only [Command.errand?] at h
      split at h
      next hasked => exact hasked
      next => cases h
    | _ => cases h
  cases hgiven : event.command? e with
  | none =>
    rcases errand_of_key hgiven h with ⟨id, heq⟩ | hfetch
    · cases heq
    · cases hfetch e
  -- a command was given, and every command but this one has another errand
  | some command =>
    cases event with
    | command given => exact hcommand h
    | key rows key =>
      simp only [Event.command?] at hgiven
      split at hgiven
      next hkey =>
        simp only [Event.errand?, hkey.1, if_pos hkey.2] at h
        exact hcommand h
      next => cases hgiven
    | _ => cases hgiven

/-- Deleting saves nothing before it does. -/
theorem Step.filed_of_delete (h : step.errand? = some .delete) : step.Filed home := by
  intro errand herrand hsaves
  obtain rfl := Option.some.inj (h.symm.trans herrand)
  cases hsaves

/-- Deleting exports nothing, so it stays outside of the directories for drafts in the sense
that is asked of steps. -/
theorem Step.outside_of_delete (h : step.errand? = some .delete) : step.Outside home := by
  intro errand herrand directory hpage
  obtain rfl := Option.some.inj (h.symm.trans herrand)
  cases hpage

/-- **Deletions were asked for.** Let the drafts be below `home`, and let other programs do to
the disk what they like. Where a step deletes, it was asked before whether to delete the open
draft, and the only document that the step removes is that of the draft that is open now; it is
that of the draft which the last question named, unless another one was chosen from the list of
drafts since, or one was saved whose document was not in the file of its id. -/
theorem run_deletion (step : Step) (h : Run (.disturbed home) log step.session step.editor)
    (hnew : NewIds home step.session step.after.2) (hdelete : step.errand? = some .delete) :
    ∃ question, lastQuestion log = some question ∧
      ∀ x content, IsDocument home x → step.session.disk.file? x = some content →
        step.after.2.disk.file? x = none →
          x = step.editor.work.spot home ∧
            (¬ TurnedSince home log → x = question.editor.work.spot home) := by
  obtain ⟨question, hquestion, hplace⟩ := h.asked (asked_of_delete hdelete)
  have hisolated : step.Isolated home := Step.isolated h.settled_of_disturbed
    (Step.filed_of_delete hdelete) (Step.outside_of_delete hdelete) hnew
  refine ⟨question, hquestion, fun x content hx hfile hgone => ?_⟩
  -- a step leaves every other document alone, so the one that is gone is the open one
  have hopen : x = step.editor.work.spot home := by
    by_contra hother
    rw [hisolated.others x content hx hother hfile] at hgone
    cases hgone
  exact ⟨hopen, fun hturned => hopen.trans (hplace hturned)⟩

/-- A second draft is made, and it is asked whether to delete it. -/
def askingEvents : List Event := [.command (.newDraft "Notes"), .command .askDelete]

/-- The question is confirmed at once. -/
def confirmingStep : Step := stepBehind askingEvents (.command .delete) firstSession firstEditor

/-- The second draft is deleted, which the question named. -/
theorem run_deletion_confirming :
    ∃ question, lastQuestion (steps askingEvents firstSession firstEditor ++ []) = some question ∧
      ∀ x content, IsDocument firstHome x → confirmingStep.session.disk.file? x = some content →
        confirmingStep.after.2.disk.file? x = none →
          x = confirmingStep.editor.work.spot firstHome ∧
            (¬ TurnedSince firstHome (steps askingEvents firstSession firstEditor ++ []) →
              x = question.editor.work.spot firstHome) := by
  have hfacts :
      (∀ step ∈ steps askingEvents firstSession firstEditor, (Rules.shared firstHome).allows step) ∧
      confirmingStep.after.2.nextToken = confirmingStep.session.nextToken ∧
      confirmingStep.errand? = some .delete := by decide +kernel
  obtain ⟨hbefore, htoken, hdelete⟩ := hfacts
  exact run_deletion confirmingStep (run_first.shared.stepBehind hbefore _).disturbed
    (newIds_of_eq htoken) hdelete

/-- The list of drafts is shown behind the question, and the other draft is chosen. -/
def choosingEvents : List Event :=
  askingEvents ++ [.key 20 ⟨.char 'd', true⟩, .key 20 ⟨.down, false⟩, .key 20 ⟨.enter, false⟩]

/-- The question is confirmed then. -/
def deletingStep : Step := stepBehind choosingEvents (.command .delete) firstSession firstEditor

/-- **A draft is deleted unasked** that was chosen behind the question: the question was about
the second draft, and the first one is removed. -/
theorem deletion_unasked :
    ∃ (log : List Step) (step question : Step), Run (.alone firstHome) log step.session step.editor ∧
      step.errand? = some .delete ∧ lastQuestion log = some question ∧
      (step.session.disk.file? (step.editor.work.spot firstHome)).isSome = true ∧
      step.after.2.disk.file? (step.editor.work.spot firstHome) = none ∧
      step.editor.work.spot firstHome ≠ question.editor.work.spot firstHome := by
  -- the run is computed once, with all that is asked of it
  have hfacts :
      (∀ step ∈ steps choosingEvents firstSession firstEditor, (Rules.alone firstHome).allows step) ∧
      deletingStep.errand? = some .delete ∧
      (lastQuestion (steps choosingEvents firstSession firstEditor ++ [])).isSome = true ∧
      (∀ question ∈ lastQuestion (steps choosingEvents firstSession firstEditor ++ []),
        deletingStep.editor.work.spot firstHome ≠ question.editor.work.spot firstHome) ∧
      (deletingStep.session.disk.file? (deletingStep.editor.work.spot firstHome)).isSome = true ∧
      deletingStep.after.2.disk.file? (deletingStep.editor.work.spot firstHome) = none := by
    decide +kernel
  obtain ⟨hbefore, hdelete, hsome, hother, hthere, hgone⟩ := hfacts
  obtain ⟨question, hquestion⟩ := Option.isSome_iff_exists.1 hsome
  exact ⟨_, deletingStep, question, run_first.stepBehind hbefore _, hdelete, hquestion, hthere,
    hgone, hother question hquestion⟩

end MarkupDesk.Editor
