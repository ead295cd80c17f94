/-
`Editor/Keys.lean` -- what the keys do.

The mode decides what a key is taken for. A popup of suggestions takes the keys that
choose from it before anything else. After a key the content is saved if it is time to;
a key that closes the editor saves it in any case, and no key does anything behind it. Behind a
panic nothing is saved.
-/
import MarkupDesk.Editor.Command
import MarkupDesk.Editor.Scroll

set_option autoImplicit false

namespace MarkupDesk.Editor

/-- What is printed on a key. -/
inductive KeyCode where
  | char (c : Char)
  | escape
  | left
  | right
  | up
  | down
  | pageUp
  | pageDown
  | home
  | lineEnd
  | backspace
  | delete
  | enter
  | tab
  /-- A key without a meaning here. -/
  | other
  deriving DecidableEq, Repr

/-- A key, alone or with the control key. -/
structure Key where
  code : KeyCode
  control : Bool
  deriving DecidableEq, Repr

/-! ## 1. The popup -/

/-- What a key does while suggestions are shown; `none` if it is not for them. -/
def popupKey? (ticks : Nat) (code : KeyCode) (popup : Popup) (e : Editor) : Option Editor :=
  match code with
  | .down => some { e with popup := some popup.next }
  | .up => some { e with popup := some popup.previous }
  | .escape => some e.closePopup
  | .enter => some (e.acceptKey ticks popup)
  | .tab => some (e.acceptKey ticks popup)
  | _ => none

/-! ## 2. Insert mode -/

/-- What a key does with the control key. -/
def controlKey (code : KeyCode) (e : Editor) : StateM Session Editor :=
  match code with
  | .char 'q' => return { e with closed := true }
  | .char 's' => e.saveNow
  | .char 't' => e.toggleTheme
  | .char 'r' => e.toggleReference
  | .char 'd' => e.openPicker
  | .char 'e' => e.writePage ['.']
  | _ => return e

/-- Moves the caret. -/
def move (motion : Text → Editing.Caret → Editing.Caret) (e : Editor) : Editor :=
  { e with caret := motion e.source e.caret }

/-- What a key does to the text and the caret, in an editor pane of `rows` rows. -/
def textKey (ticks rows : Nat) (code : KeyCode) (e : Editor) : Editor :=
  match code with
  | .escape => { e with mode := .command, command := [] }
  | .left => e.move fun _ caret => caret.left
  | .right => e.move .right
  | .up => e.move .up
  | .down => e.move .down
  | .pageUp => e.move fun t caret => caret.pageUp t rows
  | .pageDown => e.move fun t caret => caret.pageDown t rows
  | .home => e.move .home
  | .lineEnd => e.move .lineEnd
  | .backspace => e.backspace ticks
  | .delete => e.delete ticks
  | .enter => e.insert ticks ['\n']
  | .tab => e.insert ticks (Text.spaces (max e.settings.tabWidth 1))
  | .char c => e.type ticks c
  | .other => e

/-- Are suggestions made after the key? -/
def suggestsAfter : KeyCode → Bool
  | .char _ => true
  | .backspace => true
  | .delete => true
  | .enter => true
  | _ => false

/-- What a key does in insert mode where no suggestion takes it. -/
def plainKey (ticks rows : Nat) (code : KeyCode) (e : Editor) : Editor :=
  let e := e.textKey ticks rows code
  if suggestsAfter code then e.refreshPopup else e.closePopup

/-- What a key does in insert mode. -/
def insertKey (rows : Nat) (key : Key) (e : Editor) : StateM Session Editor := do
  let ticks := (← get).ticks
  match e.popup.bind fun popup => e.popupKey? ticks key.code popup with
  | some e => return e
  | none => if key.control then e.controlKey key.code else return e.plainKey ticks rows key.code

/-! ## 3. Commands and the picker -/

/-- What a key does while a command is typed. -/
def commandKey (key : Key) (e : Editor) : StateM Session Editor :=
  match key.code with
  | .escape => return { e with mode := .insert, command := [] }
  | .enter =>
    { e with mode := .insert, command := [] }.execute (.ofText (Text.trim e.command))
  | .backspace => return { e with command := e.command.dropLast }
  | .char c => return if key.control then e else { e with command := e.command ++ [c] }
  | _ => return e

/-- Opens the chosen draft. -/
def acceptDraft (e : Editor) : StateM Session Editor := do
  match e.listed[e.selected]? with
  | none => return { e with mode := .insert }
  | some summary => return { ← e.openDraft summary.id with mode := .insert }

/-- Chooses the draft above. -/
def selectPrevious (e : Editor) : Editor := { e with selected := e.selected - 1 }

/-- Chooses the draft below, if there is one. -/
def selectNext (e : Editor) : Editor :=
  if e.selected + 1 < e.listed.length then { e with selected := e.selected + 1 } else e

/-- What a key does in the list of drafts. An empty list closes with the next key. -/
def pickerKey (key : Key) (e : Editor) : StateM Session Editor :=
  if e.listed.isEmpty then return { e with mode := .insert }
  else
    match key.code with
    | .escape => return { e with mode := .insert }
    | .up => return e.selectPrevious
    | .down => return e.selectNext
    | .enter => e.acceptDraft
    | _ => return e

/-! ## 4. A press -/

/-- What a key does in an editor pane of `rows` rows. -/
def handle (rows : Nat) (key : Key) (e : Editor) : StateM Session Editor :=
  match e.mode with
  | .insert => e.insertKey rows key
  | .command => e.commandKey key
  | .picker => e.pickerKey key

/-- A press of a key on a terminal of the given size. -/
def press (size : Nat × Nat) (key : Key) (e : Editor) : StateM Session Editor := do
  if e.ended then return e
  let rows := (e.layout size).editor.innerSize.2
  let e ← (e.prepare size).handle rows key
  if e.panicked.isSome then return e
  if e.closed then e.saveNow else e.savePending

end MarkupDesk.Editor
