/-
`Files/Disk.lean` -- what is stored, and finding it.

A disk maps locations to entries. A location is the list of names from the root to
an entry; the root is always a directory. A path is resolved from a working
directory name by name (`Disk.resolve`): every name but the last must be that of a
directory, and what the last one names is left to the operation that asked, because
reading, writing and removing treat it differently.
-/
import MarkupDesk.Files.Path
import MarkupDesk.Dictionary

set_option autoImplicit false

namespace MarkupDesk.Files

/-! ## 1. Entries -/

/-- The names on the way from the root to an entry, the outermost first. -/
abbrev Location := List Text

/-- The content of a file: a text, or bytes that are none. -/
inductive Content where
  | text (value : Text)
  | binary
  deriving DecidableEq, Repr

/-- What stands at a location. -/
inductive Entry where
  | file (content : Content)
  | directory
  deriving DecidableEq, Repr

/-- A disk: the entries other than the root. -/
structure Disk where
  entries : Dictionary Location Entry
  deriving DecidableEq, Repr

/-- What can go wrong with a file operation. -/
inductive FileError where
  | notFound
  | alreadyExists
  | notDirectory
  | isDirectory
  | nameTooLong
  | busy
  | denied
  | notText
  | nulInPath
  deriving DecidableEq, Repr

/-- What went wrong, in words. -/
def FileError.reason : FileError → Text
  | .notFound => "No such file or directory"
  | .alreadyExists => "File exists"
  | .notDirectory => "Not a directory"
  | .isDirectory => "Is a directory"
  | .nameTooLong => "File name too long"
  | .busy => "Device or resource busy"
  | .denied => "Permission denied"
  | .notText => "stream did not contain valid UTF-8"
  | .nulInPath => "file name contained an unexpected NUL byte"

/-- The number that the system has for a file error, if the error is one of its own. -/
def FileError.number? : FileError → Option Nat
  | .notFound => some 2
  | .alreadyExists => some 17
  | .notDirectory => some 20
  | .isDirectory => some 21
  | .nameTooLong => some 36
  | .busy => some 16
  | .denied => some 13
  | .notText => none
  | .nulInPath => none

/-- The message of a file error. -/
def FileError.message (error : FileError) : Text :=
  match error.number? with
  | some number => error.reason ++ " (os error " ++ Text.ofNat number ++ [')']
  | none => error.reason

namespace Disk

/-- The disk that holds nothing. -/
def empty : Disk := ⟨[]⟩

instance : Inhabited Disk := ⟨empty⟩

/-- The entry at a location. -/
def lookup (disk : Disk) (location : Location) : Option Entry :=
  if location = [] then some .directory else Dictionary.get? disk.entries location

/-- The disk with the entry at the location set. -/
def set (disk : Disk) (location : Location) (entry : Entry) : Disk :=
  ⟨Dictionary.insert disk.entries location entry⟩

/-- The disk without the entry at the location. -/
def erase (disk : Disk) (location : Location) : Disk :=
  ⟨Dictionary.erase disk.entries location⟩

@[simp] theorem lookup_nil (disk : Disk) : disk.lookup [] = some .directory := rfl

/-- Below the root, what is put at a location is found there. The root is always a
directory and is never put or erased, which is why this and the lemmas below ask for
another location. -/
theorem lookup_set_self {location : Location} (h : location ≠ []) (disk : Disk) (entry : Entry) :
    (disk.set location entry).lookup location = some entry := by
  simp [lookup, set, h]

/-- Nothing else on the disk changes when an entry is put somewhere; that holds of the root
too. -/
theorem lookup_set_of_ne {location other : Location} (h : other ≠ location) (disk : Disk)
    (entry : Entry) : (disk.set location entry).lookup other = disk.lookup other := by
  simp [lookup, set, Dictionary.get?_insert_of_ne h]

/-- An entry that is erased is gone. -/
theorem lookup_erase_self {location : Location} (h : location ≠ []) (disk : Disk) :
    (disk.erase location).lookup location = none := by
  simp [lookup, erase, h]

/-- Nothing else on the disk changes when an entry is erased. -/
theorem lookup_erase_of_ne {location other : Location} (h : other ≠ location) (disk : Disk) :
    (disk.erase location).lookup other = disk.lookup other := by
  simp [lookup, erase, Dictionary.get?_erase_of_ne h]

/-! ## 2. Resolving paths -/

/-- The greatest number of bytes of a name. -/
def maxNameBytes : Nat := 255

/-- The number of bytes that a path must stay below. -/
def pathByteLimit : Nat := 4096

/-- The directory that a name on the way leads to. -/
def enter (disk : Disk) (directory : Location) (name : Text) : Except FileError Location :=
  if name = ['.'] then .ok directory
  else if name = ['.', '.'] then .ok directory.dropLast
  else if maxNameBytes < Text.byteLength name then .error .nameTooLong
  else
    match disk.lookup (directory ++ [name]) with
    | some .directory => .ok (directory ++ [name])
    | some (.file _) => .error .notDirectory
    | none => .error .notFound

/-- The last step of a path: a name, or a directory that needs none. -/
inductive LastStep where
  | name (value : Text)
  | directory
  deriving DecidableEq, Repr

/-- A path resolved but for its last step: the directory that it is taken in, the step,
and whether a `/` follows, which asks for a directory. -/
structure Resolved where
  parent : Location
  last : LastStep
  slashBehind : Bool
  deriving DecidableEq, Repr

/-- The steps from a directory; `slashBehind` tells whether the path ends with `/`. -/
def follow (disk : Disk) (slashBehind : Bool) : Location → List Text → Except FileError Resolved
  | directory, [] => .ok ⟨directory, .directory, slashBehind⟩
  | directory, [name] =>
    if name = ['.'] then .ok ⟨directory, .directory, slashBehind⟩
    else if name = ['.', '.'] then .ok ⟨directory.dropLast, .directory, slashBehind⟩
    else if maxNameBytes < Text.byteLength name then .error .nameTooLong
    else .ok ⟨directory, .name name, slashBehind⟩
  | directory, name :: names => do follow disk slashBehind (← disk.enter directory name) names

/-- The path, resolved from the working directory but for its last step. -/
def resolve (disk : Disk) (cwd : Location) (path : Path) : Except FileError Resolved :=
  if path.contains (Char.ofNat 0) then .error .nulInPath
  else if path.isEmpty then .error .notFound
  else if pathByteLimit ≤ Text.byteLength path then .error .nameTooLong
  else
    disk.follow (path.getLast? == some '/') (if Path.isAbsolute path then [] else cwd)
      ((Text.splitOn '/' path).filter (!·.isEmpty))

/-! ## 3. Operations

Each either fails, and then there is no new disk, or gives the disk after it. -/

/-- The entry that a path leads to. -/
def stat (disk : Disk) (cwd : Location) (path : Path) : Except FileError Entry := do
  let found ← disk.resolve cwd path
  match found.last with
  | .directory => .ok .directory
  | .name name =>
    match disk.lookup (found.parent ++ [name]) with
    | none => .error .notFound
    | some .directory => .ok .directory
    | some (.file content) =>
      if found.slashBehind then .error .notDirectory else .ok (.file content)

/-- The location that a path leads to, whether something is there or not. -/
def locate (disk : Disk) (cwd : Location) (path : Path) : Except FileError Location := do
  let found ← disk.resolve cwd path
  match found.last with
  | .directory => .ok found.parent
  | .name name => .ok (found.parent ++ [name])

/-- Does the path lead to an entry? -/
def hasEntry (disk : Disk) (cwd : Location) (path : Path) : Bool :=
  (disk.stat cwd path).toOption.isSome

/-- Does the path lead to a directory? -/
def isDirectory (disk : Disk) (cwd : Location) (path : Path) : Bool :=
  match disk.stat cwd path with
  | .ok .directory => true
  | _ => false

/-- The text of a file. -/
def read (disk : Disk) (cwd : Location) (path : Path) : Except FileError Text := do
  match ← disk.stat cwd path with
  | .directory => .error .isDirectory
  | .file .binary => .error .notText
  | .file (.text t) => .ok t

/-- The disk after writing a file, which may be there already. -/
def write (disk : Disk) (cwd : Location) (path : Path) (content : Content) :
    Except FileError Disk := do
  let found ← disk.resolve cwd path
  match found.last with
  | .directory => .error .isDirectory
  | .name name =>
    if found.slashBehind then .error .isDirectory
    else
      match disk.lookup (found.parent ++ [name]) with
      | some .directory => .error .isDirectory
      | _ => .ok (disk.set (found.parent ++ [name]) (.file content))

/-- The disk after making a directory, which must not be there. -/
def makeDirectory (disk : Disk) (cwd : Location) (path : Path) : Except FileError Disk := do
  let found ← disk.resolve cwd path
  match found.last with
  | .directory => .error .alreadyExists
  | .name name =>
    match disk.lookup (found.parent ++ [name]) with
    | some _ => .error .alreadyExists
    | none => .ok (disk.set (found.parent ++ [name]) .directory)

/-- The disk after removing a file. -/
def removeFile (disk : Disk) (cwd : Location) (path : Path) : Except FileError Disk := do
  let found ← disk.resolve cwd path
  match found.last with
  | .directory => .error .isDirectory
  | .name name =>
    match disk.lookup (found.parent ++ [name]) with
    | none => .error .notFound
    | some .directory => .error .isDirectory
    | some (.file _) =>
      if found.slashBehind then .error .notDirectory
      else .ok (disk.erase (found.parent ++ [name]))

/-- The disk after moving a file to another path, where it replaces a file. -/
def moveFile (disk : Disk) (cwd : Location) (source target : Path) : Except FileError Disk := do
  let found ← disk.resolve cwd source
  let goal ← disk.resolve cwd target
  match found.last, goal.last with
  | .name name, .name newName =>
    match disk.lookup (found.parent ++ [name]) with
    | none => .error .notFound
    | some .directory => .error .isDirectory
    | some (.file content) =>
      if found.slashBehind ∨ goal.slashBehind then .error .notDirectory
      else
        match disk.lookup (goal.parent ++ [newName]) with
        | some .directory => .error .isDirectory
        | _ =>
          if found.parent ++ [name] = goal.parent ++ [newName] then .ok disk
          else
            .ok ((disk.erase (found.parent ++ [name])).set (goal.parent ++ [newName])
              (.file content))
  | _, _ => .error .busy

/-! ## 4. Trees -/

/-- The entries below a location, each with the names that lead to it from there. -/
def below (disk : Disk) (location : Location) : List (Location × Entry) :=
  disk.entries.filterMap fun entry =>
    match location.isPrefixOf? entry.1 with
    | some [] => none
    | some names => some (names, entry.2)
    | none => none

/-- The disk without the entry at a location and all below it. -/
def eraseTree (disk : Disk) (location : Location) : Disk :=
  ⟨disk.entries.filter fun entry => !location.isPrefixOf entry.1⟩

end Disk

end MarkupDesk.Files
