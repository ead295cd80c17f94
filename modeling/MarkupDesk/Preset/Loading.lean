/-
`Preset/Loading.lean` -- presets in files.

A preset is a JSON record in a file `preset.json`, with its template in a file of its
own whose path is taken from the directory of the record. All fields of the record may
be missing.
-/
import MarkupDesk.Preset.Basic
import MarkupDesk.Files.Access
import MarkupDesk.Json.Shape
import MarkupDesk.Markup.Configuration

set_option autoImplicit false

namespace MarkupDesk

open Json (Field Reader Shape)
open Markup (Rules)
open Files (FileError)

/-! ## 1. Records -/

namespace ReferenceItem

/-- The fields of an item as far as they are read. -/
structure Partial where
  writing : Option Text
  meaning : Option Text
  key : Option (Option Text)

/-- The JSON form of an item. -/
def shape : Shape Partial ReferenceItem where
  expected := "struct ReferenceItem"
  start := ⟨none, none, none⟩
  fields :=
    [.make "syntax" (·.writing) (fun s x => { s with writing := some x }) .string true,
      .make "meaning" (·.meaning) (fun s x => { s with meaning := some x }) .string true,
      .make "key" (·.key) (fun s x => { s with key := some x }) (.optional .string) true]
  finish s := .ok ⟨s.writing.getD [], s.meaning.getD [], s.key.getD none⟩

end ReferenceItem

/-- The record of a preset: the preset without its template text. -/
structure PresetRecord where
  id : Option Text
  name : Option Text
  template : Path
  rules : Rules
  reference : List ReferenceItem
  title : Option Text
  content : Option Text
  deriving Repr

namespace PresetRecord

/-- The fields of a record as far as they are read. -/
structure Partial where
  id : Option (Option Text)
  name : Option (Option Text)
  template : Option Path
  rules : Option Rules
  reference : Option (List ReferenceItem)
  title : Option (Option Text)
  content : Option (Option Text)

/-- The template of a record that does not name one. -/
def defaultTemplate : Path := "template.html"

/-- Rules, of any shape. -/
def rulesReader : Reader Rules := fun depth t => do
  let (value, rest) ← Json.readValue depth t
  return (Rules.ofJson value, rest)

/-- The JSON form of a record. -/
def shape : Shape Partial PresetRecord where
  expected := "struct PresetFile"
  start := ⟨none, none, none, none, none, none, none⟩
  fields :=
    [.make "id" (·.id) (fun s x => { s with id := some x }) (.optional .string) false,
      .make "name" (·.name) (fun s x => { s with name := some x }) (.optional .string) false,
      .make "template" (·.template) (fun s x => { s with template := some x }) .string true,
      .make "rules" (·.rules) (fun s x => { s with rules := some x }) rulesReader true,
      .make "reference" (·.reference) (fun s x => { s with reference := some x })
        (.list ReferenceItem.shape.reader) true,
      .make "defaultTitle" (·.title) (fun s x => { s with title := some x })
        (.optional .string) false,
      .make "defaultContent" (·.content) (fun s x => { s with content := some x })
        (.optional .string) false]
  finish s := .ok
    { id := s.id.getD none
      name := s.name.getD none
      template := s.template.getD defaultTemplate
      rules := s.rules.getD default
      reference := s.reference.getD []
      title := s.title.getD none
      content := s.content.getD none }

/-- The preset of a record that was read from `path`. -/
def toPreset (record : PresetRecord) (path : Path) (template : Text) : Preset where
  id := record.id.getD Preset.defaultId
  name := record.name
  path := some path
  template := template
  rules := record.rules
  reference := record.reference
  title := record.title
  content := record.content

end PresetRecord

/-! ## 2. Files -/

/-- Why a preset cannot be loaded. -/
inductive PresetError where
  | unreadable (path : Path) (cause : FileError)
  | malformed (path : Path) (source : Text) (fault : Json.Fault)
  | templateUnreadable (path : Path) (cause : FileError)
  deriving DecidableEq, Repr

namespace PresetError

/-- The message of the error. -/
def message : PresetError → Text
  | .unreadable path cause => "Failed to read preset at " ++ path ++ ": " ++ cause.message
  | .malformed path source fault =>
    "Failed to parse preset at " ++ path ++ ": " ++ fault.message source
  | .templateUnreadable path cause => "Failed to read template " ++ path ++ ": " ++ cause.message

end PresetError

namespace Preset

/-- The path of a template that a preset file names. -/
def templatePath (path template : Path) : Path := Path.join ((Path.parent? path).getD ".") template

/-- The preset in a file. -/
def load (path : Path) : Task PresetError Preset := do
  let source ← Task.mapError (.unreadable path) (Files.readText path)
  match PresetRecord.shape.reader.run source with
  | .error fault => throw (.malformed path source fault)
  | .ok record =>
    let templatePath := templatePath path record.template
    let template ← Task.mapError (.templateUnreadable templatePath) (Files.readText templatePath)
    return record.toPreset path template

end Preset

end MarkupDesk
