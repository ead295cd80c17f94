/-
`Files/Access.lean` -- file operations as tasks.

The operations of a disk, run on the disk of the session with paths taken from its
working directory. `writeWhole` replaces the content of a file in one step: the text
goes into a sibling file first, which is then moved over the target, so that a reader
finds either the old content or the new one.
-/
import MarkupDesk.Session

set_option autoImplicit false

namespace MarkupDesk.Files

/-- What an operation that only looks at the disk finds. -/
def inspect {α : Type} (look : Disk → Location → α) : StateM Session α := do
  let s ← get
  return look s.disk s.cwd

/-- Replaces the disk by what an operation makes of it, unless that fails. -/
def change (act : Disk → Location → Except FileError Disk) : Task FileError Unit := do
  let s ← get
  let disk ← Task.ofExcept (act s.disk s.cwd)
  set { s with disk := disk }

/-- Does the path lead to an entry? -/
def hasEntry (path : Path) : StateM Session Bool := inspect fun disk cwd => disk.hasEntry cwd path

/-- The text of a file. -/
def readText (path : Path) : Task FileError Text := do
  let s ← get
  Task.ofExcept (s.disk.read s.cwd path)

/-- Writes a file, over what it held before. -/
def writeText (path : Path) (t : Text) : Task FileError Unit :=
  change fun disk cwd => disk.write cwd path (.text t)

/-- Makes a directory; one that is there already is all right. -/
def ensureDirectory (path : Path) : Task FileError Unit := do
  match ← Task.attempt (change fun disk cwd => disk.makeDirectory cwd path) with
  | .ok _ => return
  | .error problem =>
    if ← Task.lift (inspect fun disk cwd => disk.isDirectory cwd path) then return
    else throw problem

/-- Makes the first directory of a path and its ancestors, and before it, where they are
missing, those that follow. -/
def ensureChain : List Path → Task FileError Unit
  | [] => throw .notFound
  | path :: outer => do
    if path.isEmpty then return
    match ← Task.attempt (ensureDirectory path) with
    | .ok _ => return
    | .error .notFound =>
      ensureChain outer
      ensureDirectory path
    | .error problem => throw problem

/-- Makes a directory and all that contain it; those that are there already are all
right. -/
def ensureDirectories (path : Path) : Task FileError Unit := ensureChain (Path.ancestors path)

/-- Removes a file. -/
def removeFile (path : Path) : Task FileError Unit :=
  change fun disk cwd => disk.removeFile cwd path

/-- Removes a file; one that is missing is all right. -/
def removeIfPresent (path : Path) : Task FileError Unit := do
  match ← Task.attempt (removeFile path) with
  | .ok _ => return
  | .error .notFound => return
  | .error problem => throw problem

/-- Where a new content waits until it is moved over `path`. -/
def siblingPath (path : Path) : Path :=
  Path.withFileName path ('.' :: (Path.fileName? path).getD [] ++ ".tmp")

/-- Writes the text into the sibling file and moves that over `path`. -/
def writeThroughSibling (path : Path) (t : Text) : Task FileError Unit := do
  writeText (siblingPath path) t
  change fun disk cwd => disk.moveFile cwd (siblingPath path) path

/-- Replaces the content of a file in one step, and makes the directories that contain
it. When that fails, no sibling file is left. -/
def writeWhole (path : Path) (t : Text) : Task FileError Unit := do
  if let some directory := Path.parent? path then ensureDirectories directory
  match ← Task.attempt (writeThroughSibling path t) with
  | .ok _ => return
  | .error problem =>
    let _ ← Task.attempt (removeFile (siblingPath path))
    throw problem

end MarkupDesk.Files
