/-
`Drafts/Store.lean` -- the drafts of a preset on disk.

The drafts of a preset are kept in a directory of its own: the index, one document per
draft, and the id of the draft that was opened last. File names are made of ids by
`componentName`, which leaves nothing in them that could lead out of the directory. A
store keeps nothing in memory: every operation begins by reading what is there, so
several stores may share a directory. Damage heals: an index entry whose document
cannot be read is dropped when a draft is asked for and missing.

One thing is taken for granted and need not be: that a draft is left behind a deletion. The index
is a file, and where it lists one draft several times, all of the entries go at once; `delete`
panics then, behind what it has already written.
-/
import MarkupDesk.Drafts.Document
import MarkupDesk.Files.Record
import MarkupDesk.Panic
import MarkupDesk.Preset.Basic
import MarkupDesk.Shell.Failure
import MarkupDesk.Text.Blank

set_option autoImplicit false

namespace MarkupDesk.Drafts

open Calendar (Timestamp)
open Files (FileError)

/-! ## 1. Names and paths -/

/-- May the character stand in a file name made of an id? -/
def isNameChar (c : Char) : Bool := c.isAlphanum || c == '-' || c == '_' || c == '.'

/-- The file name made of an id: other characters become `_`, and dots at the ends are
taken off. -/
def componentName (id : Text) : Text :=
  let cleaned := Text.maskWith (fun c => !isNameChar c) '_' id
  let trimmed := Text.dropEndWhile (· == '.') (cleaned.dropWhile (· == '.'))
  if trimmed.isEmpty then ['_'] else trimmed

/-- The drafts of a preset: where they are kept, and what a new one begins with. -/
structure Store where
  directory : Path
  presetId : Text
  defaults : Content
  deriving DecidableEq, Repr

/-- Why an operation on drafts failed. -/
inductive StoreError where
  | lastDraft
  | emptyName
  | notFound (id : Text)
  | write (path : Path) (cause : FileError)
  deriving DecidableEq, Repr

namespace StoreError

/-- The message of the error. -/
def message : StoreError → Text
  | .lastDraft => "You must keep at least one draft"
  | .emptyName => "Draft name cannot be empty"
  | .notFound id => "No draft with id " ++ id
  | .write path cause => "Failed to write " ++ path ++ ": " ++ cause.message

/-- The error that brought it about, if there is one. -/
def cause : StoreError → Option FileError
  | .write _ cause => some cause
  | _ => none

/-- The error as it is told. -/
def failure (problem : StoreError) : Shell.Failure :=
  ⟨problem.message, problem.cause.toList.map (·.message)⟩

end StoreError

namespace Store

/-- The file of the index. -/
def indexPath (store : Store) : Path := Path.join store.directory "index.json"

/-- The file of the id of the draft that was opened last. -/
def activePath (store : Store) : Path := Path.join store.directory "active.json"

/-- The file of a draft. -/
def draftPath (store : Store) (id : Text) : Path :=
  Path.join (Path.join store.directory "drafts") (componentName id ++ ".json")

/-! ## 2. Looking -/

/-- The index. -/
def index (store : Store) : StateM Session Index :=
  Files.loadRecord store.indexPath Index.shape.reader .empty

/-- The list of drafts. -/
def list (store : Store) : StateM Session (List Summary) := do return (← store.index).summaries

/-- The id of the draft that was opened last; where none is stored, the first one. -/
def activeId (store : Store) : StateM Session (Option Text) := do
  match (← store.index).order.head? with
  | some first => return some (← Files.loadRecord store.activePath .string first)
  | none => Files.loadRecord store.activePath (.optional .string) none

/-- The draft with an id. -/
def get? (store : Store) (id : Text) : StateM Session (Option Draft) :=
  Files.loadRecord (store.draftPath id) (.optional Draft.shape.reader) none

/-! ## 3. Writing -/

/-- Writes a file of the store. -/
def save (path : Path) (value : Json) : Task StoreError Unit :=
  Task.mapError (.write path) (Files.saveRecord path value)

/-- Writes a draft. -/
def saveDraft (store : Store) (draft : Draft) : Task StoreError Unit :=
  save (store.draftPath draft.id) draft.toJson

/-- Writes the index. -/
def saveIndex (store : Store) (index : Index) : Task StoreError Unit :=
  save store.indexPath index.toJson

/-- Makes a draft the one that was opened last. -/
def setActive (store : Store) (id : Text) : Task StoreError Unit :=
  save store.activePath (.string id)

/-- An id for a draft that is made now. -/
def freshId (now : Timestamp) : StateM Session Text := do
  return "d_" ++ Text.ofInt now.milliseconds ++ '_' :: (← Session.freshToken)

/-- Makes a draft and puts it in front of the others. -/
def insertNew (store : Store) (name : Text) (content : Content) : Task StoreError Draft := do
  let name := Text.trim name
  if name.isEmpty then throw .emptyName
  let now := (← get).now
  let id ← Task.lift (freshId now)
  let draft : Draft := ⟨id, name, content, now, now⟩
  store.saveDraft draft
  store.saveIndex ((← Task.lift store.index).add draft)
  return draft

/-! ## 4. Operations -/

/-- The name of the draft that is made where there is none. -/
def starterName : Text := "Draft 1"

/-- The store of a preset, without looking at the disk. -/
def ofPreset (root : Path) (preset : Preset) : Store where
  directory := Path.join root (componentName preset.id)
  presetId := preset.id
  defaults := ⟨preset.defaultTitle, preset.id ++ "-page.html", preset.defaultContent⟩

/-- Sees to it that there are an index and a draft. -/
def prepare (store : Store) : Task StoreError Unit := do
  if !(← Task.lift (Files.hasEntry store.indexPath)) then store.saveIndex .empty
  if (← Task.lift store.index).order.isEmpty then
    let starter ← store.insertNew starterName store.defaults
    store.setActive starter.id

/-- The store of a preset, with at least one draft in it. -/
def openFor (root : Path) (preset : Preset) : Task StoreError Store := do
  let store := ofPreset root preset
  store.prepare
  return store

/-- The drafts of the index, each with its document if that can be read. -/
def candidates (store : Store) (index : Index) : StateM Session (List (Text × Option Draft)) :=
  index.order.mapM fun id => do return (id, ← store.get? id)

/-- Drops the index entries whose documents cannot be read; the first draft that is
left, or a new one. -/
def recover (store : Store) : Task StoreError Draft := do
  let index ← Task.lift store.index
  let candidates ← Task.lift (store.candidates index)
  let dead := (candidates.filter fun candidate => candidate.2.isNone).map (·.1)
  if !dead.isEmpty then store.saveIndex (index.drop dead)
  match candidates.findSome? (·.2) with
  | some draft => return draft
  | none => store.insertNew starterName store.defaults

/-- Opens a draft. Where it is missing, the first one is opened that is not. -/
def load (store : Store) (id : Text) : Task StoreError Draft := do
  let draft ←
    match ← Task.lift (store.get? id) with
    | some draft => pure draft
    | none => store.recover
  store.setActive draft.id
  return draft

/-- Opens the draft that was opened last. -/
def loadActive (store : Store) : Task StoreError Draft := do
  store.load ((← Task.lift store.activeId).getD [])

/-- Makes a draft with the given content and opens it. -/
def saveAs (store : Store) (name : Text) (content : Content) : Task StoreError Draft := do
  let draft ← store.insertNew name content
  store.setActive draft.id
  return draft

/-- Makes a draft with what the preset gives and opens it. -/
def create (store : Store) (name : Text) : Task StoreError Draft :=
  store.saveAs name store.defaults

/-- Removes the document of a draft and drops its entries, unless there is one entry in all; the
index that is left. -/
def remove (store : Store) (id : Text) : Task StoreError Index := do
  let index ← Task.lift store.index
  if index.order.length ≤ 1 then throw .lastDraft
  if !index.order.contains id then throw (.notFound id)
  let path := store.draftPath id
  Task.mapError (.write path) (Files.removeIfPresent path)
  let rest := index.drop [id]
  store.saveIndex rest
  return rest

/-- Makes the first draft that an index lists the one that was opened last; its id. That the index
lists one is taken for granted. -/
def promote (store : Store) (index : Index) : Task (Stop StoreError) Text := do
  let first ← Task.entryAt index.order 0
  Task.certain (store.setActive first)
  return first

/-- Deletes a draft; the id of the draft that takes its place, the first one of the index that is
left. Nothing sees to it that there is one, as entries are counted and not drafts. -/
def delete (store : Store) (id : Text) : Task (Stop StoreError) Text := do
  store.promote (← Task.certain (store.remove id))

/-- Replaces the content of a draft; nothing happens where it is missing. -/
def autosave (store : Store) (id : Text) (content : Content) : Task StoreError (Option Draft) := do
  match ← Task.lift (store.get? id) with
  | none => return none
  | some draft =>
    let draft := { draft with content := content, updated := (← get).now }
    store.saveDraft draft
    store.saveIndex ((← Task.lift store.index).touch id draft)
    return some draft

end Store

end MarkupDesk.Drafts
