/-
`Editor/View.lean` -- the texts on the screen.
-/
import MarkupDesk.Editor.Scroll

set_option autoImplicit false

namespace MarkupDesk.Editor

/-- The line without the line feed, and the carriage return before it, that it ends with. -/
def shownLine (line : Text) : Text :=
  match line.reverse with
  | '\n' :: '\r' :: rest => rest.reverse
  | '\n' :: rest => rest.reverse
  | _ => line

/-- Is the line shown as a heading? -/
def isHeadingLine (preset : Preset) (line : Text) : Bool :=
  preset.rules.headings && (Text.trimStart line).startsWith "# "

/-- The lines of the text, and whether each is shown as a heading. -/
def editorLines (e : Editor) : List (Text × Bool) :=
  (Editing.lines e.source).map fun line =>
    let shown := shownLine line
    (shown, isHeadingLine e.preset shown)

/-- What the reference sheet says when it is empty. -/
def noReference : Text := "No reference items defined for this preset."

/-- The lines of the reference sheet. -/
def referenceLines (e : Editor) : List Text :=
  let items := e.preset.referenceSheet
  if items.isEmpty then [noReference]
  else items.flatMap fun item => [item.writing, Text.spaces 2 ++ item.meaning]

/-- The title that is shown: that of the preset where none is given. -/
def shownTitle (e : Editor) : Text :=
  if (Text.trim e.content.title).isEmpty then e.preset.defaultTitle else e.content.title

/-- The status line: the command while one is typed, else what is open and what was
said last. -/
def statusLine (e : Editor) : Text :=
  if e.mode = .command then ':' :: e.command
  else
    Text.join " | "
      ([programName, e.preset.displayName, e.draft.name, "title: " ++ e.shownTitle,
          "file: " ++ e.content.filename, e.settings.theme.name, e.mark.label]
        ++ (e.notice.map Notice.message).toList)

end MarkupDesk.Editor
