/-
`Settings/EditorCommand.lean` -- opening the file of the settings in an editor.

The command is the one of the session, split into words like a command line; one that
cannot be split is taken as the name of a program as it is. The file is its last
argument.
-/
import MarkupDesk.Settings.File
import MarkupDesk.Shell.Programs
import MarkupDesk.Shell.Words

set_option autoImplicit false

namespace MarkupDesk.Settings

open Files (FileError)
open Shell (Failure ProgramResult)

/-- The command of a session that configures none. -/
def defaultEditor : Text := "nvim"

/-- The program of a command and its first arguments. -/
def splitCommand (command : Text) : Text × List Text :=
  match Shell.splitWords? command with
  | some (program :: arguments) => (program, arguments)
  | _ => (command, [])

/-- Why the settings could not be edited. -/
inductive EditProblem where
  | file (problem : FileProblem)
  | noProgram (path : Path) (cause : FileError)
  | exitCode (code : Nat)
  deriving DecidableEq, Repr

/-- The problem as it is told. -/
def EditProblem.failure : EditProblem → Failure
  | .file problem => problem.failure
  | .noProgram path cause => .because ("Failed to launch editor for " ++ path) cause.message
  | .exitCode code => .plain ("Editor exited with status exit status: " ++ Text.ofNat code)

/-- Opens the file of the settings in an editor, after writing one that is missing. Gives
what the editor wrote, and the problem if there was one. -/
def edit : StateM Session (ProgramResult × Option EditProblem) := do
  let path := filePath (← get)
  if !(← Files.hasEntry path) then
    let written : Task FileProblem Unit := do save (standardOf (← get))
    if let .error problem ← written.run then return (.success [], some (.file problem))
  let (program, arguments) := splitCommand ((← get).editor.getD defaultEditor)
  match ← Shell.runProgram program (arguments ++ [path]) with
  | .error cause => return (.success [], some (.noProgram path cause))
  | .ok result =>
    return (result, if result.code = 0 then none else some (.exitCode result.code))

end MarkupDesk.Settings
