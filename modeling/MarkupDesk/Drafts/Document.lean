/-
`Drafts/Document.lean` -- drafts and the index of drafts, and their JSON forms.

A draft is a document with a name; its content is what is edited. The index tells the
order of the drafts of a preset, the most recently made first, and repeats the name
and the time of each, so that a list needs no look into the documents.
-/
import MarkupDesk.Calendar.Timestamp
import MarkupDesk.Json.Shape

set_option autoImplicit false

namespace MarkupDesk.Drafts

open Calendar (Timestamp)
open Json (Field Problem Reader Shape)

/-! ## 1. Times -/

/-- A time stamp. -/
def timeReader : Reader Timestamp :=
  .parsed "an RFC 3339 formatted date and time string" fun t =>
    match Timestamp.ofText? t with
    | some time => .ok time
    | none => .error .malformedTime

/-- The time stamp as JSON. -/
def timeJson (time : Timestamp) : Json := .string time.toText

/-- The value of a field that must be given. -/
def required {α : Type} (name : Text) (value : Option α) : Except Problem α :=
  match value with
  | some x => .ok x
  | none => .error (.missingField name)

/-! ## 2. Drafts -/

/-- What is edited in a draft. -/
structure Content where
  title : Text
  filename : Text
  source : Text
  deriving DecidableEq, Repr

/-- A draft. -/
structure Draft where
  id : Text
  name : Text
  content : Content
  created : Timestamp
  updated : Timestamp
  deriving DecidableEq, Repr

namespace Draft

/-- The fields of a draft as far as they are read. -/
structure Partial where
  id : Option Text
  name : Option Text
  title : Option Text
  filename : Option Text
  source : Option Text
  created : Option Timestamp
  updated : Option Timestamp

/-- The JSON form of a draft, for reading. -/
def shape : Shape Partial Draft where
  expected := "struct DraftDoc"
  start := ⟨none, none, none, none, none, none, none⟩
  fields :=
    [.make "id" (·.id) (fun s x => { s with id := some x }) .string false,
      .make "name" (·.name) (fun s x => { s with name := some x }) .string false,
      .make "title" (·.title) (fun s x => { s with title := some x }) .string true,
      .make "filename" (·.filename) (fun s x => { s with filename := some x }) .string true,
      .make "source" (·.source) (fun s x => { s with source := some x }) .string true,
      .make "createdAt" (·.created) (fun s x => { s with created := some x }) timeReader false,
      .make "updatedAt" (·.updated) (fun s x => { s with updated := some x }) timeReader false]
  finish s := do
    let id ← required "id" s.id
    let name ← required "name" s.name
    let created ← required "createdAt" s.created
    let updated ← required "updatedAt" s.updated
    return ⟨id, name, ⟨s.title.getD [], s.filename.getD [], s.source.getD []⟩, created, updated⟩

/-- The JSON form of a draft, for writing. -/
def toJson (draft : Draft) : Json :=
  .object
    [("id", .string draft.id), ("name", .string draft.name),
      ("title", .string draft.content.title), ("filename", .string draft.content.filename),
      ("source", .string draft.content.source), ("createdAt", timeJson draft.created),
      ("updatedAt", timeJson draft.updated)]

end Draft

/-! ## 3. The index -/

/-- What the index tells about a draft. -/
structure Mention where
  name : Text
  updated : Timestamp
  deriving DecidableEq, Repr

namespace Mention

/-- The fields of a mention as far as they are read. -/
structure Partial where
  name : Option Text
  updated : Option Timestamp

/-- The JSON form of a mention, for reading. -/
def shape : Shape Partial Mention where
  expected := "struct DraftMeta"
  start := ⟨none, none⟩
  fields :=
    [.make "name" (·.name) (fun s x => { s with name := some x }) .string false,
      .make "updatedAt" (·.updated) (fun s x => { s with updated := some x }) timeReader false]
  finish s := do
    let name ← required "name" s.name
    let updated ← required "updatedAt" s.updated
    return ⟨name, updated⟩

/-- The JSON form of a mention, for writing. -/
def toJson (mention : Mention) : Json :=
  .object [("name", .string mention.name), ("updatedAt", timeJson mention.updated)]

end Mention

/-- The index of the drafts of a preset. -/
structure Index where
  /-- The ids, the most recently made draft first. -/
  order : List Text
  mentions : Dictionary Text Mention
  deriving DecidableEq, Repr

/-- A line of the list of drafts. -/
structure Summary where
  id : Text
  name : Text
  updated : Option Timestamp
  deriving DecidableEq, Repr

namespace Index

/-- The index of no drafts. -/
def empty : Index := ⟨[], []⟩

instance : Inhabited Index := ⟨empty⟩

/-- The index with a new draft in front. -/
def add (index : Index) (draft : Draft) : Index :=
  ⟨draft.id :: index.order, Dictionary.insert index.mentions draft.id ⟨draft.name, draft.updated⟩⟩

/-- The index without the given drafts. -/
def drop (index : Index) (ids : List Text) : Index :=
  ⟨index.order.filter fun id => !ids.contains id, ids.foldl Dictionary.erase index.mentions⟩

/-- The index after the draft that `id` leads to was saved: its time is the new one. A
draft that was not mentioned is from now on, by its name. -/
def touch (index : Index) (id : Text) (draft : Draft) : Index :=
  let name := ((Dictionary.get? index.mentions id).map (·.name)).getD draft.name
  ⟨index.order, Dictionary.insert index.mentions id ⟨name, draft.updated⟩⟩

/-- The line for a draft. One that is not mentioned is shown by its id. -/
def summary (index : Index) (id : Text) : Summary :=
  match Dictionary.get? index.mentions id with
  | some mention => ⟨id, mention.name, some mention.updated⟩
  | none => ⟨id, id, none⟩

/-- The list of drafts. -/
def summaries (index : Index) : List Summary := index.order.map index.summary

/-- The fields of an index as far as they are read. -/
structure Partial where
  order : Option (List Text)
  mentions : Option (Dictionary Text Mention)

/-- The JSON form of an index, for reading. -/
def shape : Shape Partial Index where
  expected := "struct DraftsIndex"
  start := ⟨none, none⟩
  fields :=
    [.make "order" (·.order) (fun s x => { s with order := some x }) (.list .string) true,
      .make "meta" (·.mentions) (fun s x => { s with mentions := some x })
        (.dictionary Mention.shape.reader) true]
  finish s := .ok ⟨s.order.getD [], s.mentions.getD []⟩

/-- The JSON form of an index, for writing. -/
def toJson (index : Index) : Json :=
  .object
    [("order", .array (index.order.map .string)),
      ("meta", .object (index.mentions.map fun pair => (pair.1, pair.2.toJson)))]

end Index

end MarkupDesk.Drafts
