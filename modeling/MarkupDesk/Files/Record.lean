/-
`Files/Record.lean` -- JSON documents in files.

A document that is missing or damaged is no error: reading gives a fallback then.
Writing replaces the whole file in one step.
-/
import MarkupDesk.Files.Access
import MarkupDesk.Json.Printer
import MarkupDesk.Json.Reader

set_option autoImplicit false

namespace MarkupDesk.Files

/-- What the reader makes of a text, or the fallback. -/
def decodeOr {α : Type} (reader : Json.Reader α) (fallback : α) (source : Text) : α :=
  match reader.run source with
  | .ok value => value
  | .error _ => fallback

/-- What the reader makes of the file on a disk, or the fallback. -/
def Disk.readRecord {α : Type} (disk : Disk) (cwd : Location) (path : Path)
    (reader : Json.Reader α) (fallback : α) : α :=
  match disk.read cwd path with
  | .ok source => decodeOr reader fallback source
  | .error _ => fallback

/-- What the reader makes of a file, or the fallback. -/
def loadRecord {α : Type} (path : Path) (reader : Json.Reader α) (fallback : α) :
    StateM Session α :=
  inspect fun disk cwd => disk.readRecord cwd path reader fallback

/-- Writes a value as the content of a file. -/
def saveRecord (path : Path) (value : Json) : Task FileError Unit := writeWhole path value.pretty

end MarkupDesk.Files
