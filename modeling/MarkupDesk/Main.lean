/-
`Main.lean` -- the program on the files of a machine.

What a run may look at is read into a session, the run is carried out there, and what it
changed is written back. Nothing is decided here.
-/
import MarkupDesk.Shell.Run
import Std.Time.DateTime.Timestamp

set_option autoImplicit false

namespace MarkupDesk.Machine

open Files (Content Disk Entry Location)
open Shell (Ending Outcome Watch)

/-! ## 1. Reading -/

/-- The path of a location. -/
def pathOf (location : Location) : String := String.ofList ('/' :: Text.join ['/'] location)

/-- The location of a path without looking at what is there. -/
def locationOf (cwd : Location) (path : Path) : Location :=
  let names := (Text.splitOn '/' path).filter fun name => !name.isEmpty && name != ['.']
  let start := if Path.isAbsolute path then [] else cwd
  names.foldl (fun location name =>
    if name = ['.', '.'] then location.dropLast else location ++ [name]) start

/-- Is there a directory? -/
def isDirectory (path : String) : IO Bool := (System.mkFilePath [path]).isDir

/-- The content of a file. -/
def readContent (path : String) : IO Content := do
  match String.fromUTF8? (← IO.FS.readBinFile path) with
  | some t => return .text t.toList
  | none => return .binary

/-- What stands at a location. -/
def readEntry (location : Location) : IO (Option Entry) := do
  let path := pathOf location
  if ← isDirectory path then return some .directory
  try
    return some (.file (← readContent path))
  catch _ => return none

/-- The disk with the entry at a location as it is, if there is one. -/
def loadEntry (location : Location) (disk : Disk) : IO Disk := do
  match ← readEntry location with
  | some entry => return disk.set location entry
  | none => return disk

/-- The disk with the entry at a location and the directories that contain it. -/
def loadWay (location : Location) (disk : Disk) : IO Disk :=
  (List.range location.length).foldlM
    (fun disk depth => loadEntry (location.take (depth + 1)) disk) disk

/-- The disk with everything below a location. -/
partial def loadTree (location : Location) (disk : Disk) : IO Disk := do
  let disk ← loadWay location disk
  match disk.lookup location with
  | some .directory =>
    let found ← (System.mkFilePath [pathOf location]).readDir
    found.toList.foldlM (fun disk entry => loadTree (location ++ [entry.fileName.toList]) disk) disk
  | _ => return disk

/-- The point in time, and the milliseconds of the clock. -/
def readClock : IO (Calendar.Timestamp × Nat) := do
  let nanos := (← Std.Time.Timestamp.now).toNanosecondsSinceUnixEpoch.toInt
  let seconds := nanos / 1000000000
  let time : Calendar.Timestamp :=
    ⟨seconds / 86400, (seconds % 86400).toNat, (nanos % 1000000000).toNat⟩
  return (time, ← IO.monoMsNow)

/-- A directory that the environment names, or one below the home directory. -/
def homeDirectory (name fallback : String) : IO Path := do
  match ← IO.getEnv name with
  | some value => return value.toList
  | none => return Path.join ((← IO.getEnv "HOME").getD "/").toList fallback

/-- The number that tokens begin with. -/
def readToken : IO Nat := do
  let bytes ← IO.getRandomBytes 6
  return bytes.toList.foldl (fun n byte => n * 256 + byte.toNat) 0

/-- A session that knows the file of the settings. -/
def openSession : IO Session := do
  let cwd := locationOf [] (← IO.currentDir).toString.toList
  let (now, ticks) ← readClock
  let session : Session :=
    { disk := ← loadWay cwd .empty
      cwd := cwd
      configHome := ← homeDirectory "XDG_CONFIG_HOME" ".config"
      dataHome := ← homeDirectory "XDG_DATA_HOME" ".local/share"
      editor := (← IO.getEnv "EDITOR").map String.toList
      now := now
      ticks := ticks
      nextToken := ← readToken }
  let disk ← loadWay (locationOf cwd (Settings.filePath session)) session.disk
  return { session with disk := disk }

/-- The session with what the settings and the arguments name. -/
def loadNamed (arguments : List Text) (session : Session) : IO Session := do
  let settings := ((Settings.load.run session).1.toOption).getD (Settings.standardOf session)
  let trees := (settings.draftRoot :: settings.presetsDirectory.toList).map (locationOf session.cwd)
  let disk ← trees.foldlM (fun disk location => loadTree location disk) session.disk
  let named := arguments.map (locationOf session.cwd)
  let disk ← named.foldlM (fun disk location => loadWay location disk) disk
  return { session with disk := disk }

/-! ## 2. Writing -/

/-- Writes an entry. -/
def writeEntry (location : Location) : Entry → IO Unit
  | .directory => IO.FS.createDirAll (pathOf location)
  | .file (.text t) => IO.FS.writeFile (pathOf location) (String.ofList t)
  | .file .binary => return

/-- Writes what a run changed. -/
def writeBack (before after : Disk) : IO Unit := do
  for (location, _) in before.entries do
    if (after.lookup location).isNone then IO.FS.removeFile (pathOf location)
  for (location, entry) in after.entries do
    if before.lookup location ≠ some entry then writeEntry location entry

/-- Prints what a run printed. -/
def print (outcome : Outcome) : IO UInt32 := do
  IO.print (String.ofList outcome.stdout)
  IO.eprint (String.ofList outcome.stderr)
  return UInt32.ofNat outcome.code

/-! ## 3. Watching -/

/-- Compiles a watched file whenever its content changes. -/
partial def keepWatching (watch : Watch) (session : Session) : IO UInt32 := do
  IO.sleep 150
  let location := locationOf session.cwd watch.request.file
  let before := session.disk.lookup location
  let disk ← loadEntry location (session.disk.erase location)
  if disk.lookup location = before then keepWatching watch session
  else
    let (line, session) := watch.rebuild { session with disk := disk }
    writeBack disk session.disk
    IO.eprintln (String.ofList line)
    keepWatching watch session

/-- Goes on where a run came to. The editor needs a terminal that gives single keys. -/
def goOn (ending : Ending) (session : Session) : IO UInt32 :=
  match ending with
  | .finished outcome => print outcome
  | .watching watch => do
    IO.eprintln (String.ofList watch.startLine)
    keepWatching watch session
  | .editing _ => print (.ofResult (.error (.plain "No terminal")))

/-- Runs the program with its arguments. -/
def run (arguments : List String) : IO UInt32 := do
  let arguments := arguments.map String.toList
  let session ← loadNamed arguments (← openSession)
  let (ending, after) := Shell.run arguments session
  writeBack session.disk after.disk
  goOn ending after

end MarkupDesk.Machine

/-- The program. -/
def main (arguments : List String) : IO UInt32 := MarkupDesk.Machine.run arguments
