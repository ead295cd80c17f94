/-
`Proofs/Editor/Event.lean` -- what a step of the editor can do.

A step is a key, a command, the preparation of the screen, or a save when it is time to or at
the end. Whatever the step, it does one of three things: it leaves the draft alone, it changes
the content (`Work.changed`), or it runs one errand. Which errand it runs can be read off the
step (`Event.errand?`), and nothing is done around the errand that counts (`run_of_errand`,
`run_of_none`). What can come of a key or a command is told in `Proofs/Editor/Stroke.lean`; here
it is told what of it counts for the drafts, and for the question whether to delete one.
-/
import MarkupDesk.Proofs.Editor.Stroke

set_option autoImplicit false

namespace MarkupDesk.Editor

open Drafts (Content)

/-! ## 1. Events -/

/-- A step of the editor. -/
inductive Event where
  | key (rows : Nat) (key : Key)
  | command (command : Command)
  | prepare (size : Nat × Nat)
  /-- The content is saved if it is time to. -/
  | autosave
  /-- The content is saved at the end. -/
  | leave
  deriving DecidableEq, Repr

/-- The step on the editor. -/
def Event.run : Event → Editor → StateM Session Editor
  | .key rows pressed => handle rows pressed
  | .command given => execute given
  | .prepare size => fun e => return e.prepare size
  | .autosave => savePending
  | .leave => saveNow

/-- The command that a step carries out. -/
def Event.command? (e : Editor) : Event → Option Command
  | .key _ pressed =>
    if e.mode = .command ∧ pressed.code = .enter then some (.ofText (Text.trim e.command)) else none
  | .command given => some given
  | _ => none

/-- The errand that a step runs at the given time. -/
def Event.errand? (ticks : Nat) (e : Editor) : Event → Option Errand
  | .key _ pressed =>
    match e.mode with
    | .insert =>
      if (e.popup.bind fun popup => e.popupKey? ticks pressed.code popup).isSome then none
      else if pressed.control then controlErrand? pressed.code
      else none
    | .command =>
      if pressed.code = .enter then (Command.ofText (Text.trim e.command)).errand? e.deleteAsked
      else none
    | .picker =>
      if pressed.code = .enter then e.listed[e.selected]?.map fun summary => .openDraft summary.id
      else none
  | .command given => given.errand? e.deleteAsked
  | .prepare _ => none
  | .autosave => if ∃ deadline ∈ e.deadline, deadline ≤ ticks then some .save else none
  | .leave => some .save

/-! ## 2. What counts -/

/-- The content was changed. -/
def Work.changed (ticks : Nat) (content : Content) (w : Work) : Work :=
  { w with
    content := content
    dirty := true
    mark := .dirty
    deadline := some (ticks + w.settings.autosaveMillis) }

variable {e e' e'' : Editor} {s : Session} {ticks : Nat} {event : Event} {errand : Errand}

/-- The content may have been changed, and nothing else has that counts. -/
def Edited (ticks : Nat) (e e' : Editor) : Prop :=
  (e'.work = e.work ∨ ∃ content, e'.work = e.work.changed ticks content) ∧
    e'.deleteAsked = e.deleteAsked

/-- What leaves all that counts alone is an edit, of nothing. -/
theorem Edited.of_work (hwork : e'.work = e.work) (hasked : e'.deleteAsked = e.deleteAsked) :
    Edited ticks e e' := ⟨.inl hwork, hasked⟩

/-- What was done to the view before an edit does not count. -/
theorem Edited.of_view (hwork : e'.work = e.work) (hasked : e'.deleteAsked = e.deleteAsked)
    (h : Edited ticks e' e'') : Edited ticks e e'' :=
  ⟨by rw [← hwork]; exact h.1, h.2.trans hasked⟩

/-! ## 3. Editing -/

/-- **A key for the text** changes the content at most. -/
theorem Stroke.edited {code : KeyCode} (h : Stroke ticks code e e') : Edited ticks e e' := by
  cases h with
  | moved | begun => exact .of_work rfl rfl
  | replaced text => exact ⟨.inr ⟨{ e.content with source := text }, rfl⟩, rfl⟩

/-- Making the page anew changes the lines of the page and whether they are stale. -/
theorem exists_refreshPreview_eq (e : Editor) :
    ∃ preview stale, e.refreshPreview = { e with preview := preview, previewStale := stale } := by
  unfold refreshPreview
  split <;> exact ⟨_, _, rfl⟩

/-- To draw the screen is to make the page and to scroll. -/
theorem exists_prepare_eq (size : Nat × Nat) (e : Editor) :
    ∃ preview stale editorScroll previewScroll, e.prepare size =
      { e with preview := preview, previewStale := stale, editorScroll := editorScroll,
               previewScroll := previewScroll } := by
  obtain ⟨preview, stale, hrefresh⟩ := exists_refreshPreview_eq e
  unfold prepare
  rw [hrefresh]
  exact ⟨preview, stale, _, _, rfl⟩

/-- Drawing edits nothing. -/
theorem prepare_edited (ticks : Nat) (size : Nat × Nat) (e : Editor) :
    Edited ticks e (e.prepare size) := by
  obtain ⟨_, _, _, _, hprepared⟩ := exists_prepare_eq size e
  rw [hprepared]
  exact .of_work rfl rfl

/-! ## 4. Steps without an errand -/

/-- The step has left the session alone, has edited the content at most, and a question to
delete that is in force afterwards was asked now or before. -/
structure Harmless (event : Event) (e : Editor) (s : Session) (e' : Editor) (s' : Session) : Prop where
  session : s' = s
  work : e'.work = e.work ∨ ∃ content, e'.work = e.work.changed s.ticks content
  asked : e'.deleteAsked = true →
    (event.command? e = some .askDelete ∧ e'.work = e.work) ∨
      (event.command? e = none ∧ e.deleteAsked = true)

/-- An edit does no harm to files: it does not touch the session at all. -/
theorem Harmless.of_edited (hcommand : event.command? e = none) (h : Edited s.ticks e e') :
    Harmless event e s e' s := ⟨rfl, h.1, fun hasked => .inr ⟨hcommand, h.2 ▸ hasked⟩⟩

/-- A command without an errand. -/
theorem execute_harmless {command : Command} (hcommand : event.command? e = some command)
    (hwork : e'.work = e.work) (h : command.errand? e'.deleteAsked = none) :
    Harmless event e s ((e'.execute command).run s).1 ((e'.execute command).run s).2 := by
  obtain ⟨e'', hrun, htold⟩ := execute_of_none (s := s) h
  rw [hrun]
  cases htold with
  | said notice closed asked hasked =>
    exact ⟨rfl, .inl hwork, fun htrue => .inl ⟨by rw [hcommand, hasked htrue], hwork⟩⟩
  | named content =>
    exact ⟨rfl, .inr ⟨content, congrArg (Work.changed s.ticks content) hwork⟩, Bool.noConfusion⟩

/-- The save when it is time to is a save, or nothing. -/
theorem savePending_run (e : Editor) (s : Session) :
    e.savePending.run s =
      if ∃ deadline ∈ e.deadline, deadline ≤ s.ticks then e.saveNow.run s else (e, s) := by
  unfold savePending
  cases hdeadline : e.deadline with
  | none => rfl
  | some deadline =>
    -- the clock is read inside the monad; unfolded it is the session that comes in
    have hrun : ((do if deadline ≤ (← get).ticks then e.saveNow else return e :
        StateM Session Editor).run s) =
          StateT.run (if deadline ≤ s.ticks then e.saveNow else pure e) s := rfl
    simp only
    rw [hrun]
    by_cases hle : deadline ≤ s.ticks
    · rw [if_pos hle, if_pos ⟨deadline, rfl, hle⟩]
    · rw [if_neg hle, if_neg]
      · rfl
      · rintro ⟨_, hmem, hle'⟩
        exact hle (Option.some.inj hmem ▸ hle')

/-- Where nothing is changed that counts, no harm is done. -/
theorem Harmless.of_view {action : StateM Session Editor} (hrun : action = pure e')
    (hcommand : event.command? e = none) (hwork : e'.work = e.work)
    (hasked : e'.deleteAsked = e.deleteAsked) :
    Harmless event e s (action.run s).1 (action.run s).2 := by
  rw [hrun]
  exact .of_edited hcommand (.of_work hwork hasked)

/-- A key in insert mode without an errand. -/
theorem insertKey_harmless {rows : Nat} {key : Key} (hmode : e.mode = .insert)
    (h : (Event.key rows key).errand? s.ticks e = none) :
    Harmless (.key rows key) e s ((e.insertKey rows key).run s).1 ((e.insertKey rows key).run s).2 := by
  have hcommand : (Event.key rows key).command? e = none := by simp [Event.command?, hmode]
  simp only [Event.errand?, hmode] at h
  rcases insertKey_cases rows key e s with
    ⟨popup, e', -, hkey, hrun⟩ | ⟨hnone, ⟨hcontrol, hrun⟩ | ⟨-, hrun⟩⟩
  · rw [hrun]
    exact .of_edited hcommand (popupKey?_stroke hkey).edited
  · -- a control key does something to the store only as an errand, and there is none
    rw [hnone, if_pos hcontrol] at h
    obtain ⟨closed, hclosed⟩ := controlKey_of_none h e
    rw [hrun]
    exact .of_view hclosed hcommand rfl rfl
  · rw [hrun]
    exact .of_edited hcommand (plainKey_stroke _ rows key.code e).edited

/-- What a key means depends on the mode. -/
theorem run_key (rows : Nat) (key : Key) (e : Editor) :
    (Event.key rows key).run e =
      match e.mode with
      | .insert => e.insertKey rows key
      | .command => e.commandKey key
      | .picker => e.pickerKey key := rfl

/-- **A step without an errand** does no harm. The three modes differ in what their keys do to
the view, and none of that counts. -/
theorem run_of_none (h : event.errand? s.ticks e = none) :
    Harmless event e s ((event.run e).run s).1 ((event.run e).run s).2 := by
  cases event with
  | prepare size => exact .of_edited rfl (prepare_edited _ size e)
  | leave => cases h
  | autosave =>
    -- no time is set, or it has not come
    have hlate : ¬ ∃ deadline ∈ e.deadline, deadline ≤ s.ticks := fun hdue => by
      rw [Event.errand?, if_pos hdue] at h
      cases h
    rw [Event.run, savePending_run, if_neg hlate]
    exact .of_edited rfl (.of_work rfl rfl)
  | command command => exact execute_harmless rfl rfl h
  | key rows key =>
    rw [run_key]
    cases hmode : e.mode with
    | insert => exact insertKey_harmless hmode h
    | command =>
      simp only [Event.errand?, hmode] at h
      by_cases henter : key.code = .enter
      · rw [if_pos henter] at h
        simp only [commandKey_enter henter]
        exact execute_harmless (by simp [Event.command?, hmode, henter]) rfl h
      · obtain ⟨_, _, -, hrun⟩ := commandKey_of_ne_enter henter e
        exact .of_view hrun (by simp [Event.command?, henter]) rfl rfl
    | picker =>
      simp only [Event.errand?, hmode] at h
      have hnone : key.code = .enter → e.listed[e.selected]? = none := fun henter => by
        rwa [if_pos henter, Option.map_eq_none_iff] at h
      obtain ⟨_, _, -, -, hrun⟩ := pickerKey_of_none hnone
      exact .of_view hrun (by simp [Event.command?, hmode]) rfl rfl

/-! ## 5. Steps with an errand -/

/-- The step runs the errand, on an editor with the same draft in it, and changes nothing about
its result that counts. No command leaves a question to delete in force. -/
structure Carries (event : Event) (errand : Errand) (e : Editor) (s : Session) (e' : Editor)
    (s' : Session) : Prop where
  run : ∃ e₀, e₀.work = e.work ∧ e'.work = ((errand.run e₀).run s).1.work ∧
    e'.notice = ((errand.run e₀).run s).1.notice ∧ s' = ((errand.run e₀).run s).2
  asked : e'.deleteAsked = true → event.command? e = none ∧ e.deleteAsked = true

/-- What was done to the view before an errand is run does not count either. -/
theorem Carries.of_run {e₀ : Editor} (hwork : e₀.work = e.work) (hasked : e₀.deleteAsked = true →
      event.command? e = none ∧ e.deleteAsked = true) :
    Carries event errand e s ((errand.run e₀).run s).1 ((errand.run e₀).run s).2 :=
  ⟨⟨e₀, hwork, rfl, rfl, rfl⟩, fun h => hasked ((errand.ran e₀ s).asked.symm.trans h)⟩

/-- A command with an errand. -/
theorem execute_carries {command : Command} (hwork : e'.work = e.work)
    (h : command.errand? e'.deleteAsked = some errand) :
    Carries event errand e s ((e'.execute command).run s).1 ((e'.execute command).run s).2 := by
  rw [execute_of_errand h]
  exact Carries.of_run hwork fun hfalse => nomatch hfalse

/-- **A step with an errand** runs it, and does nothing else that counts. In the command mode
the line is cleared first, in the picker the mode is left; for the drafts it is as if the
errand had been run at once. -/
theorem run_of_errand (h : event.errand? s.ticks e = some errand) :
    Carries event errand e s ((event.run e).run s).1 ((event.run e).run s).2 := by
  have hsame : ∀ {event : Event} {errand : Errand}, event.command? e = none →
      Carries event errand e s ((errand.run e).run s).1 ((errand.run e).run s).2 :=
    fun hcommand => .of_run rfl fun hasked => ⟨hcommand, hasked⟩
  cases event with
  | prepare size => cases h
  | leave =>
    obtain rfl := Option.some.inj h
    exact hsame rfl
  | autosave =>
    rw [Event.run, savePending_run]
    simp only [Event.errand?] at h
    split at h
    next hdue =>
      obtain rfl := Option.some.inj h
      rw [if_pos hdue]
      exact hsame rfl
    next => cases h
  | command command => exact execute_carries rfl h
  | key rows key =>
    rw [run_key]
    cases hmode : e.mode with
    | insert =>
      have hcommand : (Event.key rows key).command? e = none := by simp [Event.command?, hmode]
      simp only [Event.errand?, hmode] at h
      simp only
      rcases insertKey_cases rows key e s with
        ⟨popup, e', hpopup, hkey, -⟩ | ⟨hnone, ⟨hcontrol, hrun⟩ | ⟨hcontrol, -⟩⟩
      · rw [hpopup, Option.bind_some, hkey] at h
        cases h
      -- the popup has not taken the key, and control is held
      · rw [hnone, if_pos hcontrol] at h
        rw [hrun, controlKey_of_errand h]
        exact hsame hcommand
      · rw [hnone, hcontrol] at h
        cases h
    | command =>
      simp only [Event.errand?, hmode] at h
      split at h
      next henter =>
        simp only [commandKey_enter henter]
        exact execute_carries rfl h
      next => cases h
    | picker =>
      have hcommand : (Event.key rows key).command? e = none := by simp [Event.command?, hmode]
      simp only [Event.errand?, hmode] at h
      split at h
      next henter =>
        obtain ⟨summary, hsummary, rfl⟩ := Option.map_eq_some_iff.1 h
        have hrun := pickerKey_of_some henter hsummary s
        simp only
        rw [hrun]
        exact ⟨⟨e, rfl, rfl, rfl, rfl⟩, fun hasked =>
          ⟨hcommand, ((Errand.openDraft summary.id).ran e s).asked.symm.trans hasked⟩⟩
      next => cases h

end MarkupDesk.Editor
