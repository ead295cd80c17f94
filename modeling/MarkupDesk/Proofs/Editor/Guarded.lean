/-
`Proofs/Editor/Guarded.lean` -- the editor on a buffer that refuses what is out of range.

The functions of the editor on its text are total and cut every place at the end of the text.
Here the same editor works on a buffer that faults where it is used out of range
(`Editing.Guarded`), and it puts the caret where it computes it, without a cut. As long as the
caret is in the text both do the same, so in no run is there a fault: not in a key, not in the
scrolling, and not where the caret is looked for on the screen.
-/
import MarkupDesk.Proofs.Editing.Guarded
import MarkupDesk.Proofs.Editor.Cursor

set_option autoImplicit false

namespace MarkupDesk.Editor

open Editing (OutOfRange)
open Screen (Layout)

namespace Guarded

/-! ## 1. Changes -/

/-- The editor with another text and the caret at a place of it. -/
def withText (ticks : Nat) (text : Text) (place : Nat) (e : Editor) : Editor :=
  markChanged ticks
    { e with content := { e.content with source := text }, caret := .ofPlace place }

/-- Inserts a text at the caret, which ends up behind it. -/
def insert (ticks : Nat) (t : Text) (e : Editor) : Except OutOfRange Editor := do
  let text ← Editing.Guarded.insert e.source e.caret.place t
  return withText ticks text (e.caret.place + t.length) e

/-- Types a character, with what it brings or steps over. -/
def type (ticks : Nat) (c : Char) (e : Editor) : Except OutOfRange Editor :=
  match Editing.autoPair? e.source e.caret.place e.caret.place c with
  | some edit =>
    if edit.text.byteLength = e.source.byteLength then
      .ok { e with caret := .ofPlace edit.selectionEnd }
    else .ok (e.applyEdit ticks edit)
  | none => insert ticks [c] e

/-- Removes the character before the caret. -/
def backspace (ticks : Nat) (e : Editor) : Except OutOfRange Editor := do
  let place := e.caret.place
  if place = 0 then return e
  let text ← Editing.Guarded.remove e.source (place - 1) place
  return withText ticks text (place - 1) e

/-- Removes the character behind the caret. -/
def delete (ticks : Nat) (e : Editor) : Except OutOfRange Editor := do
  let place := e.caret.place
  if e.source.length ≤ place then return e
  let text ← Editing.Guarded.remove e.source place (place + 1)
  return withText ticks text place e

/-! ## 2. Keys -/

/-- Moves the caret. -/
def move (motion : Text → Editing.Caret → Except OutOfRange Editing.Caret) (e : Editor) :
    Except OutOfRange Editor := do
  return { e with caret := ← motion e.source e.caret }

/-- What a key does to the text and the caret, in an editor pane of `rows` rows. -/
def textKey (ticks rows : Nat) (code : KeyCode) (e : Editor) : Except OutOfRange Editor :=
  match code with
  | .escape => .ok { e with mode := .command, command := [] }
  | .left => .ok (e.move fun _ caret => caret.left)
  | .right => .ok (e.move .right)
  | .up => move Editing.Guarded.up e
  | .down => move Editing.Guarded.down e
  | .pageUp => move (Editing.Guarded.pageUp rows) e
  | .pageDown => move (Editing.Guarded.pageDown rows) e
  | .home => move Editing.Guarded.home e
  | .lineEnd => move Editing.Guarded.lineEnd e
  | .backspace => backspace ticks e
  | .delete => delete ticks e
  | .enter => insert ticks ['\n'] e
  | .tab => insert ticks (Text.spaces (max e.settings.tabWidth 1)) e
  | .char c => type ticks c e
  | .other => .ok e

/-- What a key does in insert mode where no suggestion takes it. -/
def plainKey (ticks rows : Nat) (code : KeyCode) (e : Editor) : Except OutOfRange Editor := do
  let e ← textKey ticks rows code e
  return if suggestsAfter code then e.refreshPopup else e.closePopup

/-- What a key does in insert mode. -/
def insertKey (rows : Nat) (key : Key) (e : Editor) : Task OutOfRange Editor := do
  let ticks := (← get).ticks
  match e.popup.bind fun popup => e.popupKey? ticks key.code popup with
  | some e => return e
  | none =>
    if key.control then Task.lift (e.controlKey key.code)
    else Task.ofExcept (plainKey ticks rows key.code e)

/-- What a key does in an editor pane of `rows` rows. Commands and the list of drafts replace
the text as a whole, if they do. -/
def handle (rows : Nat) (key : Key) (e : Editor) : Task OutOfRange Editor :=
  match e.mode with
  | .insert => insertKey rows key e
  | .command => Task.lift (e.commandKey key)
  | .picker => Task.lift (e.pickerKey key)

/-! ## 3. The screen -/

/-- Scrolls the editor pane to the caret. -/
def showCaret (rows : Nat) (e : Editor) : Except OutOfRange Editor := do
  let (line, _) ← Editing.Guarded.lineColumn e.source e.caret.place
  return { e with editorScroll := scrollTo line rows e.editorScroll }

/-- Scrolls the preview along with the caret. -/
def followCaret (columns rows : Nat) (e : Editor) : Except OutOfRange Editor := do
  let (line, _) ← Editing.Guarded.lineColumn e.source e.caret.place
  let total := Screen.wrappedRows e.preview columns
  return { e with previewScroll := followScroll line (Editing.lineCount e.source) total rows }

/-- Everything as it is shown on a terminal of the given size. -/
def prepare (size : Nat × Nat) (e : Editor) : Except OutOfRange Editor := do
  let layout := e.layout size
  let (columns, rows) := layout.preview.innerSize
  followCaret columns rows (← showCaret layout.editor.innerSize.2 e.refreshPreview)

/-- The cell of the caret, where it is on the screen. -/
def caretCell? (layout : Layout) (e : Editor) : Except OutOfRange (Option (Nat × Nat)) := do
  let (columns, rows) := layout.editor.innerSize
  if e.mode ≠ .insert then return none
  let (line, column) ← Editing.Guarded.lineColumn e.source e.caret.place
  if line < e.editorScroll then return none
  if rows ≤ line - e.editorScroll then return none
  let text ← Editing.Guarded.line e.source line
  let width := Text.charWidths (text.take column)
  return some
    (Screen.cap (Screen.cap (layout.editor.x + 1) + min width columns),
      Screen.cap (Screen.cap (layout.editor.y + 1) + (line - e.editorScroll)))

/-! ## 4. Without a fault -/

variable {e : Editor} {ticks : Nat}

/-- A caret that is in the text is not cut. -/
theorem replaceSource_eq {text : Text} {place : Nat} (h : place ≤ text.length) :
    e.replaceSource ticks text place = withText ticks text place e := by
  unfold replaceSource withText
  rw [Nat.min_eq_left h]

/-- An insertion at the caret is in range, and so is the caret behind it. The lemmas of this
part go through the functions in the order in which they use each other. -/
theorem insert_eq (h : e.caret.place ≤ e.source.length) (t : Text) :
    insert ticks t e = .ok (e.insert ticks t) := by
  have hbehind : e.caret.place + t.length ≤
      (e.source.take e.caret.place ++ t ++ e.source.drop e.caret.place).length := by
    simp only [List.length_append, List.length_take, List.length_drop]
    omega
  unfold insert Editor.insert
  simp only
  rw [Editing.Guarded.insert_eq h, replaceSource_eq hbehind]
  rfl

/-- Typing may insert two characters, or only step over one. -/
theorem type_eq (h : e.caret.place ≤ e.source.length) (c : Char) :
    type ticks c e = .ok (e.type ticks c) := by
  unfold type Editor.type
  cases Editing.autoPair? e.source e.caret.place e.caret.place c with
  | some edit =>
    by_cases hsame : edit.text.byteLength = e.source.byteLength
    · simp only [if_pos hsame]
    · simp only [if_neg hsame]
  | none => exact insert_eq h [c]

/-- At the start of the text nothing is removed, and elsewhere the character before the caret
is there. -/
theorem backspace_eq (h : e.caret.place ≤ e.source.length) :
    backspace ticks e = .ok (e.backspace ticks) := by
  unfold backspace Editor.backspace
  by_cases hzero : e.caret.place = 0
  · simp only [if_pos hzero]
    rfl
  · have hplace : e.caret.place - 1 ≤
        (e.source.take (e.caret.place - 1) ++ e.source.drop e.caret.place).length := by
      simp only [List.length_append, List.length_take, List.length_drop]
      omega
    simp only [if_neg hzero]
    rw [Editing.Guarded.remove_eq (Nat.sub_le _ 1) h, replaceSource_eq hplace]
    rfl

/-- At the end of the text nothing is removed; the function asks before it does. -/
theorem delete_eq : delete ticks e = .ok (e.delete ticks) := by
  unfold delete Editor.delete
  by_cases hend : e.source.length ≤ e.caret.place
  · simp only [if_pos hend]
    rfl
  · have hplace : e.caret.place ≤
        (e.source.take e.caret.place ++ e.source.drop (e.caret.place + 1)).length := by
      simp only [List.length_append, List.length_take, List.length_drop]
      omega
    simp only [if_neg hend]
    rw [Editing.Guarded.remove_eq (Nat.le_succ _) (by omega), replaceSource_eq hplace]
    rfl

/-- A motion that is free of faults on buffers is so in the editor. -/
theorem move_eq (motion : Text → Editing.Caret → Editing.Caret)
    {guarded : Text → Editing.Caret → Except OutOfRange Editing.Caret}
    (h : guarded e.source e.caret = .ok (motion e.source e.caret)) :
    move guarded e = .ok (e.move motion) := by
  unfold move
  rw [h]
  rfl

/-- Every key for the text is one of the functions above. -/
theorem textKey_eq (h : e.caret.place ≤ e.source.length) (rows : Nat) (code : KeyCode) :
    textKey ticks rows code e = .ok (e.textKey ticks rows code) := by
  cases code with
  | up => exact move_eq _ (Editing.Guarded.up_eq _ _)
  | down => exact move_eq _ (Editing.Guarded.down_eq _ _)
  | pageUp => exact move_eq (fun t caret => caret.pageUp t rows) (Editing.Guarded.pageUp_eq rows _ _)
  | pageDown =>
    exact move_eq (fun t caret => caret.pageDown t rows) (Editing.Guarded.pageDown_eq rows _ _)
  | home => exact move_eq _ (Editing.Guarded.home_eq _ _)
  | lineEnd => exact move_eq _ (Editing.Guarded.lineEnd_eq _ _)
  | backspace => exact backspace_eq h
  | delete => exact delete_eq
  | enter | tab => exact insert_eq h _
  | char c => exact type_eq h c
  | escape | left | right | other => rfl

/-- Asking for suggestions behind a key reads the text and does not use the buffer. -/
theorem plainKey_eq (h : e.caret.place ≤ e.source.length) (rows : Nat) (code : KeyCode) :
    plainKey ticks rows code e = .ok (e.plainKey ticks rows code) := by
  unfold plainKey
  rw [textKey_eq h]
  rfl

/-- The guarded key in insert mode, with the session that it runs in. -/
theorem insertKey_run (rows : Nat) (key : Key) (e : Editor) (s : Session) :
    (insertKey rows key e).run.run s =
      StateT.run (ExceptT.run
        (match e.popup.bind fun popup => e.popupKey? s.ticks key.code popup with
        | some e' => (pure e' : Task OutOfRange Editor)
        | none =>
          if key.control then Task.lift (e.controlKey key.code)
          else Task.ofExcept (plainKey s.ticks rows key.code e))) s := rfl

/-- A key in insert mode causes no fault: it is chosen from the popup, or runs an errand, or
is a key for the text. -/
theorem insertKey_eq (h : e.caret.place ≤ e.source.length) (rows : Nat) (key : Key) :
    insertKey rows key e = Task.lift (e.insertKey rows key) := by
  refine ExceptT.ext (funext fun s => ?_)
  have hlift : ∀ action : StateM Session Editor,
      (Task.lift action : Task OutOfRange Editor).run.run s =
        (.ok (action.run s).1, (action.run s).2) := fun _ => rfl
  show (insertKey rows key e).run.run s = (Task.lift (e.insertKey rows key)).run.run s
  rw [insertKey_run, plainKey_eq h, hlift, Editor.insertKey_run]
  -- a key that the popup takes moves no caret; the guards are in what a plain key does
  cases e.popup.bind fun popup => e.popupKey? s.ticks key.code popup with
  | some e' => rfl
  | none =>
    by_cases hcontrol : key.control = true
    · simp only [if_pos hcontrol]
      rfl
    · simp only [if_neg hcontrol]
      rfl

/-- **A key causes no fault** where the caret is in the text. -/
theorem handle_eq (h : e.caret.place ≤ e.source.length) (rows : Nat) (key : Key) :
    handle rows key e = Task.lift (e.handle rows key) := by
  unfold handle Editor.handle
  cases e.mode with
  | insert => exact insertKey_eq h rows key
  | command => rfl
  | picker => rfl

/-- To scroll to the caret is to look its line up, which is there. -/
theorem showCaret_eq (rows : Nat) (e : Editor) : showCaret rows e = .ok (e.showCaret rows) := by
  unfold showCaret
  rw [Editing.Guarded.lineColumn_bind]
  rfl

/-- And so is to let the preview follow it. -/
theorem followCaret_eq (columns rows : Nat) (e : Editor) :
    followCaret columns rows e = .ok (e.followCaret columns rows) := by
  unfold followCaret
  rw [Editing.Guarded.lineColumn_bind]
  rfl

/-- **Scrolling causes no fault.** -/
theorem prepare_eq (size : Nat × Nat) (e : Editor) : prepare size e = .ok (e.prepare size) := by
  unfold prepare
  simp only [showCaret_eq]
  exact followCaret_eq _ _ _

/-- **To look for the caret causes no fault.** The line of the caret is looked up only if it
is in the window, and it is one of the text in any case. -/
theorem caretCell?_eq (layout : Layout) (e : Editor) :
    caretCell? layout e = .ok (e.caretCell? layout) := by
  obtain ⟨text, hline⟩ : ∃ text, Editing.line? e.source e.caretLine = some text :=
    ⟨_, List.getElem?_eq_getElem (e.caret.line_lt e.source)⟩
  have htext : Editing.Guarded.line e.source e.caretLine = .ok text := by
    rw [Editing.Guarded.line, hline]
  unfold caretCell? Editor.caretCell?
  simp only
  rw [Editing.Guarded.lineColumn_bind]
  change (if e.mode ≠ .insert then _ else
    if e.caretLine < e.editorScroll then _ else
      if layout.editor.innerSize.2 ≤ e.caretLine - e.editorScroll then _ else
        Editing.Guarded.line e.source e.caretLine >>= _) = _
  by_cases hmode : e.mode = .insert
  · by_cases habove : e.caretLine < e.editorScroll
    · have hhidden : ¬ e.editorScroll ≤ e.caretLine := Nat.not_le.2 habove
      rw [if_neg (not_not.2 hmode), if_pos habove, if_neg fun hshown => hhidden hshown.2.1]
      rfl
    -- in the window the line is taken from the buffer
    by_cases hbelow : layout.editor.innerSize.2 ≤ e.caretLine - e.editorScroll
    · rw [if_neg (not_not.2 hmode), if_neg habove, if_pos hbelow,
        if_neg fun hshown => Nat.not_le.2 hshown.2.2 hbelow]
      rfl
    · rw [if_neg (not_not.2 hmode), if_neg habove, if_neg hbelow, htext,
        if_pos ⟨hmode, Nat.not_lt.1 habove, Nat.not_le.1 hbelow⟩, hline]
      rfl
  · rw [if_pos hmode, if_neg fun hshown => hmode hshown.1]
    rfl

end Guarded

/-! ## 5. Runs -/

/-- **In no run is the buffer used out of its range.** Whatever the surroundings do: the caret is
in the text or at its end, the choice of the picker is in its list if that is not empty, and
neither a key, whatever the pane, nor the scrolling, whatever the terminal, nor the search for
the cell of the caret causes a fault. Each does what it does without the guards. -/
theorem run_inRange {rules : Rules} {log : List Step} {s : Session} {e : Editor}
    (h : Run rules log s e) :
    e.caret.place ≤ e.source.length ∧
      (e.mode = .picker → e.listed ≠ [] → e.selected < e.listed.length) ∧
      (∀ rows key, Guarded.handle rows key e = Task.lift (e.handle rows key)) ∧
      (∀ size, Guarded.prepare size e = .ok (e.prepare size)) ∧
      ∀ layout, Guarded.caretCell? layout e = .ok (e.caretCell? layout) := by
  have hvalid := h.cursor
  refine ⟨hvalid.place, fun _ => hvalid.selected, fun rows key => ?_, fun size => ?_,
    fun layout => ?_⟩
  · exact Guarded.handle_eq hvalid.place rows key
  · exact Guarded.prepare_eq size e
  · exact Guarded.caretCell?_eq layout e

/-- A pair is typed around the caret, a line is begun in it, the caret goes up in a pane without
rows, and the list of drafts is opened. -/
def edgeEvents : List Event :=
  [.key 20 ⟨.char '(', false⟩, .key 20 ⟨.enter, false⟩, .key 20 ⟨.delete, false⟩,
    .key 0 ⟨.pageUp, false⟩, .key 20 ⟨.up, false⟩, .key 20 ⟨.char 'd', true⟩]

/-- In the list, behind the edits. -/
theorem run_inRange_listing :
    (behind edgeEvents firstSession firstEditor).1.mode = .picker ∧
      (behind edgeEvents firstSession firstEditor).1.listed ≠ [] ∧
      (behind edgeEvents firstSession firstEditor).1.source = "(\n".toList ∧
      (behind edgeEvents firstSession firstEditor).1.selected <
        (behind edgeEvents firstSession firstEditor).1.listed.length ∧
      (behind edgeEvents firstSession firstEditor).1.caret.place ≤ 2 := by
  have hrun : Run (.alone firstHome) (steps edgeEvents firstSession firstEditor ++ [])
      (behind edgeEvents firstSession firstEditor).2
      (behind edgeEvents firstSession firstEditor).1 := run_first.events (by decide +kernel)
  have hmode : (behind edgeEvents firstSession firstEditor).1.mode = .picker := by
    decide +kernel
  have hlisted : (behind edgeEvents firstSession firstEditor).1.listed ≠ [] := by
    decide +kernel
  have hsource : (behind edgeEvents firstSession firstEditor).1.source = "(\n".toList := by
    decide +kernel
  -- the invariant of all runs, at this one
  have hrange := run_inRange hrun
  refine ⟨hmode, hlisted, hsource, hrange.2.1 hmode hlisted, ?_⟩
  have hplace := hrange.1
  rwa [hsource] at hplace

end MarkupDesk.Editor
