/-
`Proofs/Editor/Cursor.lean` -- the caret is in the text, and the choice in the list.

A caret points into a text that any step may replace, and the choice of the picker into a list.
What they point into and where is the `Cursor` of the editor; it is `Valid` if they point at
something. Every step keeps it valid: a motion does not leave the text (`Stroke.moved`), where the
text is replaced the caret is put at a place of the new text, and a draft is shown from its
beginning.
-/
import MarkupDesk.Proofs.Editor.Run

set_option autoImplicit false

namespace MarkupDesk.Editor

/-! ## 1. The cursor -/

/-- The text and the place of the caret in it, and the list of drafts and the choice from it. -/
structure Cursor where
  text : Text
  place : Nat
  listed : List Drafts.Summary
  selected : Nat

def cursor (e : Editor) : Cursor := ⟨e.source, e.caret.place, e.listed, e.selected⟩

/-- The caret is in the text, or at its end, and the choice is in the list if there is any. -/
structure Cursor.Valid (c : Cursor) : Prop where
  place : c.place ≤ c.text.length
  selected : c.listed ≠ [] → c.selected < c.listed.length

variable {e e' : Editor} {s : Session} {ticks : Nat}

/-- Another text and another caret, and the same list. -/
theorem Cursor.Valid.withText (h : e.cursor.Valid) {t : Text} {place : Nat} (hplace : place ≤ t.length)
    (heq : e'.cursor = { e.cursor with text := t, place := place }) : e'.cursor.Valid := by
  rw [heq]
  exact ⟨hplace, h.selected⟩

/-- What changes neither text, caret, list nor choice keeps the cursor valid. -/
theorem Cursor.Valid.congr (h : e.cursor.Valid) (heq : e'.cursor = e.cursor) : e'.cursor.Valid := by
  rwa [heq]

/-! ## 2. What becomes of it -/

/-- **A key for the text** leaves the caret in it: where the text is another one, the caret is cut
to its length. -/
theorem Stroke.valid {code : KeyCode} (hstroke : Stroke ticks code e e') (h : e.cursor.Valid) :
    e'.cursor.Valid := by
  cases hstroke with
  | moved caret _ hplace => exact h.withText (hplace h.place) rfl
  | replaced text place => exact h.withText (Nat.min_le_right place text.length) rfl
  | begun => exact h

/-- **An errand** leaves the text and the caret, or shows a draft from its beginning. -/
theorem Ran.valid (hran : Ran e e') (h : e.cursor.Valid) : e'.cursor.Valid := by
  cases hran with
  | shown _ _ draft => exact h.withText (Nat.zero_le draft.content.source.length) rfl
  | kept => exact h.congr rfl
  | listed _ _ hselected => exact ⟨h.place, hselected⟩

/-- A title is no text that the caret is in. -/
theorem Told.valid {command : Command} (htold : Told ticks command e e') (h : e.cursor.Valid) :
    e'.cursor.Valid := by
  cases htold with
  | said => exact h.congr rfl
  | named content hsource =>
    refine ⟨?_, h.selected⟩
    show e.caret.place ≤ content.source.length
    rw [hsource]
    exact h.place

/-- Drawing moves the windows, not what they show. -/
theorem prepare_cursor (size : Nat × Nat) (e : Editor) : (e.prepare size).cursor = e.cursor := by
  obtain ⟨_, _, _, _, hprepared⟩ := exists_prepare_eq size e
  rw [hprepared]
  rfl

/-! ## 3. Steps -/

/-- A command runs its errand or tells something. The lemmas of this part are put together of
what a stroke, an errand and a told command keep; no key is looked at again. -/
theorem execute_valid (h : e.cursor.Valid) (command : Command) :
    ((e.execute command).run s).1.cursor.Valid := by
  cases herrand : command.errand? e.deleteAsked with
  | some errand =>
    rw [execute_of_errand herrand]
    exact (errand.ran { e with deleteAsked := false } s).valid h
  | none =>
    obtain ⟨e', hrun, htold⟩ := execute_of_none (s := s) herrand
    rw [hrun]
    exact htold.valid h

/-- A control key runs an errand or does nothing. -/
theorem controlKey_valid (h : e.cursor.Valid) (code : KeyCode) :
    ((e.controlKey code).run s).1.cursor.Valid := by
  cases herrand : controlErrand? code with
  | some errand =>
    rw [controlKey_of_errand herrand]
    exact (errand.ran e s).valid h
  | none =>
    obtain ⟨closed, hrun⟩ := controlKey_of_none herrand e
    rw [hrun]
    exact h

/-- In insert mode a key is one for the popup, one with control, or one for the text. -/
theorem insertKey_valid (h : e.cursor.Valid) (rows : Nat) (key : Key) :
    ((e.insertKey rows key).run s).1.cursor.Valid := by
  rcases insertKey_cases rows key e s with
    ⟨popup, e', -, hkey, hrun⟩ | ⟨-, ⟨-, hrun⟩ | ⟨-, hrun⟩⟩
  · rw [hrun]
    exact (popupKey?_stroke hkey).valid h
  · rw [hrun]
    exact controlKey_valid h key.code
  · rw [hrun]
    exact (plainKey_stroke _ rows key.code e).valid h

/-- In command mode a key edits the command line or gives the command. -/
theorem commandKey_valid (h : e.cursor.Valid) (key : Key) :
    ((e.commandKey key).run s).1.cursor.Valid := by
  by_cases henter : key.code = .enter
  · rw [commandKey_enter henter]
    exact execute_valid (e := { e with mode := .insert, command := [] }) h _
  · obtain ⟨mode, command, -, hrun⟩ := commandKey_of_ne_enter henter e
    rw [hrun]
    exact h

/-- In the picker a key moves the choice within the list or opens the chosen draft. -/
theorem pickerKey_valid (h : e.cursor.Valid) (key : Key) :
    ((e.pickerKey key).run s).1.cursor.Valid := by
  rcases pickerKey_cases key e s with ⟨summary, -, -, hrun⟩ | ⟨mode, selected, -, hselected, hrun⟩
  · rw [hrun]
    exact (((Errand.openDraft summary.id).ran e s).valid h).congr rfl
  · rw [hrun]
    exact ⟨h.place, fun hlisted => hselected (h.selected hlisted)⟩

/-- **A step keeps the cursor valid.** -/
theorem Event.cursor_run (event : Event) (h : e.cursor.Valid) (s : Session) :
    ((event.run e).run s).1.cursor.Valid := by
  cases event with
  | prepare size => exact h.congr (prepare_cursor size e)
  | leave => exact (Errand.save.ran e s).valid h
  | command command => exact execute_valid h command
  -- a save that is not due does nothing
  | autosave =>
    rw [Event.run, savePending_run]
    split
    · exact (Errand.save.ran e s).valid h
    · exact h
  | key rows key =>
    rw [run_key]
    split
    · exact insertKey_valid h rows key
    · exact commandKey_valid h key
    · exact pickerKey_valid h key

/-- **The cursor is valid in every run**, whatever the surroundings do. -/
theorem Run.cursor {rules : Rules} {log : List Step} (h : Run rules log s e) :
    e.cursor.Valid := by
  induction h with
  | start _ hends =>
    obtain ⟨preset, _, -, -, he⟩ := start_ends hends
    rw [he]
    exact ⟨Nat.zero_le _, fun hlisted => absurd rfl hlisted⟩
  | step _ _ event _ ih => exact event.cursor_run ih _
  | pass _ _ ih => exact ih

end MarkupDesk.Editor
