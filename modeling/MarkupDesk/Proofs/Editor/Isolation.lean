/-
`Proofs/Editor/Isolation.lean` -- editing one draft leaves the others alone.

The draft that is open may have been removed by another program, or replaced, before a step is
made; the step reads what is there and writes the document of the open draft, if that is there
(`errand_frame`). So a step leaves the other documents alone, adds documents under ids it makes,
and removes one only where it deletes the open draft (`Step.Isolated`). As every document stays
in the file of its id, this is so behind any number of steps and commands.
-/
import MarkupDesk.Proofs.Editor.Run

set_option autoImplicit false

namespace MarkupDesk.Editor

open Drafts (Frame IsDocument Moment spot)
open Files (Location)

variable {home : Location} {e : Editor} {s after : Session} {w : Work} {log : List Step} {step : Step}
  {errand : Errand} {x : Location} {old new : Option Files.Content}

/-! ## 1. What a step may do -/

/-- The ids that were made between two sessions are those of no document that was there. -/
def NewIds (home : Location) (s after : Session) : Prop :=
  ∀ presetId token, s.nextToken ≤ token → token < after.nextToken →
    s.disk.file? (spot home presetId (Moment.draftId ⟨s.now, token⟩)) = none

/-- No id was made. -/
theorem newIds_of_eq (h : after.nextToken = s.nextToken) : NewIds home s after :=
  fun _ _ hfirst hlast => absurd hlast (Nat.not_lt.2 (h ▸ hfirst))

/-- A document that was there has none of the ids that were made. -/
theorem NewIds.document_cases {content : Files.Content}
    {may : Location → Option Files.Content → Option Files.Content → Prop}
    (h : NewIds home s after) (hframe : Frame home may s after) (hx : IsDocument home x)
    (hfile : s.disk.file? x = some content) :
    after.disk.file? x = some content ∨ may x (some content) (after.disk.file? x) := by
  rcases hframe.documents x hx with hsame | hmay | ⟨presetId, token, hfirst, hlast, rfl⟩
  · exact .inl (hsame.trans hfile)
  · rw [hfile] at hmay
    exact .inr hmay
  · rw [h presetId token hfirst hlast] at hfile
    cases hfile

/-- The location is one for the document of an id that was made between the sessions. -/
def IsNewSpot (home : Location) (s after : Session) (x : Location) : Prop :=
  ∃ presetId token, s.nextToken ≤ token ∧ token < after.nextToken ∧
    x = spot home presetId (Moment.draftId ⟨s.now, token⟩)

/-- The step keeps to the document of the open draft. -/
structure Step.Isolated (home : Location) (step : Step) : Prop where
  /-- Every document but that of the open draft is what it was. -/
  others : ∀ x content, IsDocument home x → x ≠ step.editor.work.spot home →
    step.session.disk.file? x = some content → step.after.2.disk.file? x = some content
  /-- Documents are added under new ids only. -/
  created : ∀ x, IsDocument home x → step.session.disk.file? x = none →
    step.after.2.disk.file? x = none ∨ IsNewSpot home step.session step.after.2 x
  /-- No document is removed, unless the open draft is deleted. -/
  kept : step.errand? ≠ some .delete → ∀ x, IsDocument home x →
    (step.session.disk.file? x).isSome = true → (step.after.2.disk.file? x).isSome = true
  /-- A step that saves at most adds no document, not even that of the open draft. -/
  saves : (∀ errand, step.errand? = some errand → errand = .save) → ∀ x, IsDocument home x →
    step.session.disk.file? x = none → step.after.2.disk.file? x = none

/-- All that an errand may do to documents, it does to the document of the open draft. -/
theorem Errand.May.place (h : errand.May home w x old new) : x = w.spot home := by
  cases errand <;> exact h.1

/-- And unless it deletes, that document is there before and afterwards. -/
theorem Errand.May.kept (h : errand.May home w x old new) (hne : errand ≠ .delete) :
    old.isSome = true ∧ new.isSome = true := by
  cases errand with
  | delete => exact absurd rfl hne
  | _ => exact h.2

/-! ## 2. Steps -/

/-- A step that saves at most takes no token, so it makes no document. -/
theorem Step.nextToken_of_saves (h : ∀ errand, step.errand? = some errand → errand = .save) :
    step.after.2.nextToken = step.session.nextToken := by
  rcases step.after_cases with ⟨-, hnone⟩ | ⟨errand, herrand, hcarries⟩
  · rw [hnone.session]
  · obtain ⟨e, -, -, -, hsession⟩ := hcarries.run
    obtain rfl := h errand herrand
    have honly : OnlyDisk step.session (e.saveNow.run step.session).2 :=
      (saved_saveNow e step.session).onlyDisk
    rw [hsession, Errand.run, honly]

/-- **A step keeps to the document of the open draft.** The four parts are read off its
frame: a document that has changed is that of the open draft or has an id that was made in
between. -/
theorem Step.isolated (hsettled : Settled home step.session.cwd step.editor.work)
    (hfiled : step.Filed home) (houtside : step.Outside home)
    (hnew : NewIds home step.session step.after.2) : step.Isolated home := by
  have hframe := Step.frame hsettled hfiled houtside
  refine ⟨fun x content hx hplace hfile => ?_, fun x hx hfile => ?_, fun hdelete x hx hfile => ?_,
    fun hsaves x hx hfile => ?_⟩
  · rcases hnew.document_cases hframe hx hfile with hsame | ⟨errand, -, hmay⟩
    · exact hsame
    · exact absurd hmay.place hplace
  · rcases hframe.documents x hx with hsame | ⟨errand, herrand, hmay⟩ | hnewSpot
    · exact .inl (hsame.trans hfile)
    -- a document that was there and is not any more was deleted
    · by_cases hdelete : errand = .delete
      · subst hdelete
        exact .inl hmay.2
      · rw [hfile] at hmay
        exact absurd (hmay.kept hdelete).1 Bool.noConfusion
    · exact .inr hnewSpot
  -- a document that is there stays there unless it is deleted
  · obtain ⟨content, hcontent⟩ := Option.isSome_iff_exists.1 hfile
    rcases hnew.document_cases hframe hx hcontent with hsame | ⟨errand, herrand, hmay⟩
    · rw [hsame]
      rfl
    · exact (hmay.kept fun heq => hdelete (heq ▸ herrand)).2
  · rcases hframe.documents x hx with hsame | ⟨errand, herrand, hmay⟩ |
      ⟨presetId, token, hfirst, hlast, -⟩
    · exact hsame.trans hfile
    · obtain rfl := hsaves errand herrand
      rw [hfile] at hmay
      exact absurd (hmay.kept Errand.noConfusion).1 Bool.noConfusion
    · rw [Step.nextToken_of_saves hsaves] at hlast
      exact absurd hlast (Nat.not_lt.2 hfirst)

/-! ## 3. Runs -/

/-- **Editing one draft leaves the others alone.** Let every document be in the file of its id at
the start, let whole commands for drafts come between the steps as they like, and let no page be
written among the drafts. Then a step leaves every document alone but that of the open draft, it
adds documents under new ids only, and it removes none, unless it deletes the open draft as was
confirmed; and a save adds no document, so it does not bring back one that was deleted. -/
theorem run_isolated (step : Step) (h : Run (.shared home) log step.session step.editor)
    (hallows : (Rules.shared home).allows step) (hnew : NewIds home step.session step.after.2) :
    step.Isolated home := by
  obtain ⟨hsettled, hconsistent⟩ := h.consistent
  exact Step.isolated hsettled (Step.filed hconsistent) hallows.2 hnew

/-- A character is typed into the first draft, a second draft is made, one is typed there, and
that is saved. -/
def savingStep : Step :=
  stepBehind [.key 20 ⟨.char 'x', false⟩, .command (.newDraft "Notes"), .key 20 ⟨.char 'y', false⟩]
    (.command .save) firstSession firstEditor

/-- The save of the second draft keeps to its document. -/
theorem run_isolated_saving : savingStep.Isolated firstHome := by
  have hfacts : (∀ step ∈ steps [.key 20 ⟨.char 'x', false⟩, .command (.newDraft "Notes"),
        .key 20 ⟨.char 'y', false⟩] firstSession firstEditor,
        (Rules.shared firstHome).allows step) ∧
      (Rules.shared firstHome).allows savingStep ∧
      savingStep.after.2.nextToken = savingStep.session.nextToken := by decide +kernel
  obtain ⟨hbefore, hallows, htoken⟩ := hfacts
  exact run_isolated savingStep (run_first.shared.stepBehind hbefore _) hallows (newIds_of_eq htoken)

end MarkupDesk.Editor
