/-
`Editor/Scroll.lean` -- what the panes show.

The editor pane scrolls as little as is needed to have the caret's line in it. The
preview follows the caret: the row that is as far down the page as the caret's line is
down the text is in the middle, unless the page ends before that.
-/
import MarkupDesk.Editor.Saving
import MarkupDesk.Screen.Geometry
import MarkupDesk.Screen.Wrap

set_option autoImplicit false

namespace MarkupDesk.Editor

open Screen (Layout)

/-- The lines of a page. -/
def pageLines (page : Text) : List Text :=
  match (Text.splitOn '\n' page).reverse with
  | [] :: line :: others => (line :: others).reverse
  | _ => Text.splitOn '\n' page

/-- Makes the page anew if it is stale. -/
def refreshPreview (e : Editor) : Editor :=
  if e.previewStale then { e with preview := pageLines e.page, previewStale := false } else e

/-- The first line to show in a pane of `rows` rows so that `line` is in it, where it was
`scroll` before. -/
def scrollTo (line rows scroll : Nat) : Nat :=
  if line < scroll then line
  else if scroll + rows ≤ line then line - (rows - 1)
  else scroll

/-- The number of the caret's line. -/
def caretLine (e : Editor) : Nat := e.caret.line e.source

/-- The column of the caret in its line. -/
def caretColumn (e : Editor) : Nat := e.caret.currentColumn e.source

/-- Scrolls the editor pane to the caret. -/
def showCaret (rows : Nat) (e : Editor) : Editor :=
  { e with editorScroll := scrollTo e.caretLine rows e.editorScroll }

/-- The first of `total` rows to show in a pane of `rows` rows that follows line `line`
of `lineCount`. -/
def followScroll (line lineCount total rows : Nat) : Nat :=
  min (line * total / max lineCount 1 - rows / 2) (total - rows)

/-- Scrolls the preview along with the caret. -/
def followCaret (columns rows : Nat) (e : Editor) : Editor :=
  let total := Screen.wrappedRows e.preview columns
  { e with
    previewScroll := followScroll e.caretLine (Editing.lineCount e.source) total rows }

/-- The layout of a terminal of the given size. -/
def layout (size : Nat × Nat) (e : Editor) : Layout :=
  Screen.layout e.settings.referenceCollapsed size.1 size.2

/-- Everything as it is shown on a terminal of the given size. -/
def prepare (size : Nat × Nat) (e : Editor) : Editor :=
  let layout := e.layout size
  let (columns, rows) := layout.preview.innerSize
  (e.refreshPreview.showCaret layout.editor.innerSize.2).followCaret columns rows

/-- The cell of the caret, where it is on the screen. -/
def caretCell? (layout : Layout) (e : Editor) : Option (Nat × Nat) :=
  let (columns, rows) := layout.editor.innerSize
  if e.mode = .insert ∧ e.editorScroll ≤ e.caretLine ∧ e.caretLine - e.editorScroll < rows then
    let before := ((Editing.line? e.source e.caretLine).getD []).take e.caretColumn
    let width := Text.charWidths before
    some
      (Screen.cap (Screen.cap (layout.editor.x + 1) + min width columns),
        Screen.cap (Screen.cap (layout.editor.y + 1) + (e.caretLine - e.editorScroll)))
  else none

end MarkupDesk.Editor
