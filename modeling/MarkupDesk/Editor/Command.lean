/-
`Editor/Command.lean` -- the commands of the editor.

A command is a name, and behind the first space its argument. A question whether to
delete holds until a command other than `delete` and `delete!` is given.
-/
import MarkupDesk.Editor.Saving

set_option autoImplicit false

namespace MarkupDesk.Editor

/-- A command. -/
inductive Command where
  | nothing
  | save
  | quit
  | title (title : Text)
  | filename (name : Text)
  | newDraft (name : Text)
  | saveAs (name : Text)
  | askDelete
  | delete
  | drafts
  | writePage (directory : Path)
  | preset (id : Text)
  | theme
  | reference
  | unknown (name : Text)
  deriving DecidableEq, Repr

namespace Command

/-- The directory that a page is written into when none is given. -/
def pageDirectory (argument : Text) : Path := if argument.isEmpty then ['.'] else argument

/-- The commands by name. -/
def table : Dictionary Text (Text → Command) :=
  [("", fun _ => nothing),
    ("w", fun _ => save), ("write", fun _ => save),
    ("q", fun _ => quit), ("quit", fun _ => quit), ("wq", fun _ => quit), ("x", fun _ => quit),
    ("title", title), ("filename", filename), ("new", newDraft), ("saveas", saveAs),
    ("delete", fun _ => askDelete), ("delete!", fun _ => delete),
    ("drafts", fun _ => drafts),
    ("export", fun argument => writePage (pageDirectory argument)),
    ("preset", preset),
    ("theme", fun _ => theme),
    ("ref", fun _ => reference), ("reference", fun _ => reference)]

/-- The name and the argument of a command line. -/
def split (line : Text) : Text × Text :=
  match Text.splitOnce? ' ' line with
  | some (name, argument) => (name, Text.trim argument)
  | none => (line, [])

/-- The command that a line gives. -/
def ofText (line : Text) : Command :=
  let (name, argument) := split line
  match Dictionary.get? table name with
  | some make => make argument
  | none => unknown name

/-- Does the command leave a question whether to delete in force? -/
def keepsQuestion : Command → Bool
  | askDelete => true
  | delete => true
  | _ => false

end Command

/-- Deletes the open draft if that was asked before. Either way the question is answered. Nothing
follows the deletion, which may panic. -/
def confirmDelete (e : Editor) : StateM Session Editor :=
  let answered := { e with deleteAsked := false }
  if e.deleteAsked then answered.deleteCurrent else return answered.say .deleteNotAsked

/-- Does what a command says. -/
def execute (command : Command) (e : Editor) : StateM Session Editor := do
  let e := { e with deleteAsked := e.deleteAsked && command.keepsQuestion }
  let ticks := (← get).ticks
  match command with
  | .nothing => return e
  | .save => e.saveNow
  | .quit => return { e with closed := true }
  | .title title => return e.retitle ticks title
  | .filename name => return e.renameFile ticks name
  | .newDraft name => e.newDraft name
  | .saveAs name => e.saveAs name
  | .askDelete => return { e with deleteAsked := true }.say (.askDelete e.draft.name)
  | .delete => e.confirmDelete
  | .drafts => e.openPicker
  | .writePage directory => e.writePage directory
  | .preset id => e.switchPreset id
  | .theme => e.toggleTheme
  | .reference => e.toggleReference
  | .unknown name => return e.say (.unknownCommand name)

end MarkupDesk.Editor
