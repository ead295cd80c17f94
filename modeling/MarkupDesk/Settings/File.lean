/-
`Settings/File.lean` -- the file that keeps the settings.

Loading leaves a complete file behind: one that is missing is written, and one with gaps
is written anew with the gaps filled. A file that cannot be read as settings is left as
it is.
-/
import MarkupDesk.Settings.Format
import MarkupDesk.Files.Access
import MarkupDesk.Shell.Failure

set_option autoImplicit false

namespace MarkupDesk.Settings

open Files (FileError)
open Shell (Failure)

/-- The directory of the file of the settings. -/
def fileDirectory (s : Session) : Path := Path.join s.configHome programName

/-- The file of the settings. -/
def filePath (s : Session) : Path := Path.join (fileDirectory s) "config.toml"

/-- Why the settings cannot be loaded or saved. -/
inductive FileProblem where
  | directory (path : Path) (cause : FileError)
  | unreadable (path : Path) (cause : FileError)
  /-- The file holds no settings; the report tells where and why. -/
  | malformed (path : Path) (report : Text)
  | notWritable
  | write (path : Path) (cause : FileError)
  deriving DecidableEq, Repr

/-- The problem as it is told. -/
def FileProblem.failure : FileProblem → Failure
  | .directory path cause => .because ("Failed to create " ++ path) cause.message
  | .unreadable path cause => .because ("Failed to read " ++ path) cause.message
  | .malformed path report => .because ("Failed to parse " ++ path) report
  | .notWritable => .because "Failed to serialize config" "out-of-range value for u64 type"
  | .write path cause => .because ("Failed to write " ++ path) cause.message

/-- Writes settings to a file. -/
def saveTo (path : Path) (settings : Settings) : Task FileProblem Unit := do
  if let some directory := Path.parent? path then
    Task.mapError (.directory directory) (Files.ensureDirectories directory)
  match settings.toText? with
  | none => throw .notWritable
  | some t => Task.mapError (.write path) (Files.writeText path t)

/-- The settings in a file, which is completed. -/
def loadFrom (path : Path) : Task FileProblem Settings := do
  let defaults := standardOf (← get)
  if !(← Task.lift (Files.hasEntry path)) then
    saveTo path defaults
    return defaults
  let source ← Task.mapError (.unreadable path) (Files.readText path)
  match GivenSettings.ofText source with
  | .error problem => throw (.malformed path (problem.report source))
  | .ok given =>
    let settings := given.complete defaults
    if !given.isFull then saveTo path settings
    return settings

/-- Writes the settings. -/
def save (settings : Settings) : Task FileProblem Unit := do
  saveTo (filePath (← get)) settings

/-- The settings. -/
def load : Task FileProblem Settings := do
  loadFrom (filePath (← get))

end MarkupDesk.Settings
