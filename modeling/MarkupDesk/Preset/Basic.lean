/-
`Preset/Basic.lean` -- presets.

A preset is what a page is made with: the rules for its markup, the template it is
put into, and what a new draft begins with. The reference sheet lists its markers;
where a preset brings no list of its own, one is made from the marker keys.
-/
import MarkupDesk.Markup.Compile
import MarkupDesk.Files.Path

set_option autoImplicit false

namespace MarkupDesk

open Markup (Rules)

/-- One line of a reference sheet: how something is written, what it means, and the
marker key it is about if the writing does not show it. -/
structure ReferenceItem where
  writing : Text
  meaning : Text
  key : Option Text
  deriving DecidableEq, Repr

/-- A preset. -/
structure Preset where
  id : Text
  name : Option Text
  /-- The file it was read from; the built-in preset has none. -/
  path : Option Path
  template : Text
  rules : Rules
  reference : List ReferenceItem
  title : Option Text
  content : Option Text
  deriving DecidableEq, Repr

namespace Preset

/-- The id of a preset that does not give one. -/
def defaultId : Text := "default"

/-- The title of the pages of a preset that does not give one. -/
def fallbackTitle : Text := "Page"

/-- The name to show: the name, else the id, else the file. -/
def displayName (preset : Preset) : Text :=
  match preset.name with
  | some name => name
  | none => if preset.id.isEmpty then preset.path.getD defaultId else preset.id

/-- The title of a page that has none of its own. -/
def defaultTitle (preset : Preset) : Text := preset.title.getD fallbackTitle

/-- What a new draft begins with. -/
def defaultContent (preset : Preset) : Text := preset.content.getD []

/-- The meaning that is shown for a marker without a reference item. -/
def meaningOfKey (key : Text) : Text :=
  if key = ("arabic" : Text) then "Arabic text" else key ++ " marker"

/-- The reference item made for a marker key. -/
def itemOfKey (key : Text) : ReferenceItem :=
  ⟨'{' :: key ++ ":...\x7d", meaningOfKey key, some key⟩

/-- The reference items to show. -/
def referenceSheet (preset : Preset) : List ReferenceItem :=
  if preset.reference.isEmpty then preset.rules.markerKeys.map itemOfKey else preset.reference

/-- The key of a marker that is written as the text begins: what stands between `{` and
the first colon, unless that is nothing. -/
def keyOfWriting? (writing : Text) : Option Text :=
  match writing with
  | '{' :: rest =>
    match Text.splitOnce? ':' rest with
    | some (key, _) => if key.isEmpty then none else some key
    | none => none
  | _ => none

/-- The marker key that an item is about. -/
def keyOfItem? (item : ReferenceItem) : Option Text :=
  match item.key with
  | some key => some key
  | none => keyOfWriting? item.writing

/-- The meanings of the marker keys that the reference items tell; the last item for a
key counts. -/
def meanings (preset : Preset) : Dictionary Text Text :=
  Dictionary.ofPairs (preset.reference.filterMap fun item =>
    (keyOfItem? item).map fun key => (key, item.meaning))

end Preset

end MarkupDesk
