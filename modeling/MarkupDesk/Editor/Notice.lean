/-
`Editor/Notice.lean` -- what the editor says in its status line.
-/
import MarkupDesk.Drafts.Store
import MarkupDesk.Settings.File

set_option autoImplicit false

namespace MarkupDesk.Editor

open Drafts (StoreError)
open Files (FileError)
open Settings (FileProblem)

/-- Something to tell the user. -/
inductive Notice where
  | opened (name : Text)
  | created (name : Text)
  | savedAs (name : Text)
  /-- Asks to confirm that the named draft is to be deleted. -/
  | askDelete (name : Text)
  | deleteNotAsked
  | deleted (name : Text)
  | draftsFailed (cause : StoreError)
  | draftGone
  | saveFailed (cause : StoreError)
  | presetChanged (name : Text)
  | unknownPreset (id : Text)
  | pageWritten (path : Path)
  | pageNotWritten (cause : FileError)
  | themeChanged (mode : ThemeMode)
  | settingsNotSaved (cause : FileProblem)
  | unknownCommand (name : Text)
  deriving DecidableEq, Repr

namespace Notice

/-- The name between double quotes. -/
def named (name : Text) : Text := '"' :: name ++ ['"']

/-- The notice as it is shown. -/
def message : Notice → Text
  | .opened name => "Opened " ++ named name
  | .created name => "Created " ++ named name
  | .savedAs name => "Saved as " ++ named name
  | .askDelete name =>
    "Delete " ++ named name ++ "? This cannot be undone. Run :delete! to confirm"
  | .deleteNotAsked => "Run :delete first"
  | .deleted name => "Deleted " ++ named name
  | .draftsFailed cause => cause.message
  | .draftGone => "Draft no longer exists"
  | .saveFailed cause => "Save failed: " ++ cause.message
  | .presetChanged name => "Preset: " ++ name
  | .unknownPreset id => "Unknown preset: " ++ id
  | .pageWritten path => "Exported " ++ path
  | .pageNotWritten cause => "Export failed: " ++ cause.message
  | .themeChanged mode => "Theme: " ++ mode.name
  | .settingsNotSaved cause => "Config not saved: " ++ cause.failure.message
  | .unknownCommand name => "Not a command: " ++ name

end Notice

end MarkupDesk.Editor
