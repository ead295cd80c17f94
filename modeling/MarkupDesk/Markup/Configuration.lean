/-
`Markup/Configuration.lean` -- rules in JSON.

Reading never refuses: a field that is missing or has another type than it should
counts as absent, except that any value but `false` leaves headings on. Writing
gives every rule its one canonical form, which reads back to the same rules.
-/
import MarkupDesk.Markup.Compile
import MarkupDesk.Json.Printer
import MarkupDesk.Json.Reader

set_option autoImplicit false

namespace MarkupDesk.Markup

namespace MarkerSpec

/-- The tag that a `tag` field names. A value that is no string is taken as it is
written. -/
def tagOfJson : Option Json → Text
  | none => defaultTag
  | some .null => defaultTag
  | some (.string tag) => tag
  | some value => value.compact

/-- The class that a `class` field names, if any: an empty string, zero and `false`
name none. -/
def classOfJson : Option Json → Option Text
  | some (.string cls) => if cls.isEmpty then none else some cls
  | some (.number n) => if n.isZero then none else some n.toText
  | some (.bool true) => some (Json.boolText true)
  | _ => none

/-- The element that an entry of a `markers` object describes. What is no object
describes the plain element. -/
def ofJson : Json → MarkerSpec
  | .object fields =>
    ⟨tagOfJson (Dictionary.get? fields "tag"), classOfJson (Dictionary.get? fields "class")⟩
  | _ => default

/-- The entry that describes the element. -/
def toJson (spec : MarkerSpec) : Json :=
  .object (("tag", .string spec.tag) ::
    match spec.cls with
    | some cls => [("class", .string cls)]
    | none => [])

end MarkerSpec

namespace MarkerMap

/-- The map that a `markers` object describes. -/
def ofMembers (members : List (Text × Json)) : MarkerMap :=
  ofPairs (members.map fun member => (member.1, MarkerSpec.ofJson member.2))

/-- The object that describes the map. -/
def toJson (map : MarkerMap) : Json :=
  .object (map.entries.map fun entry => (entry.1, entry.2.toJson))

end MarkerMap

namespace Rules

/-- The `headings` rule: on unless it is `false`. -/
def headingsOfJson : Option Json → Bool
  | some (.bool false) => false
  | _ => true

/-- The `markers` rule. -/
def markersOfJson : Option Json → Option MarkerMap
  | some (.object members) => some (.ofMembers members)
  | _ => none

/-- The rules that a JSON value describes. -/
def ofJson : Json → Rules
  | .object fields =>
    ⟨headingsOfJson (Dictionary.get? fields "headings"),
      markersOfJson (Dictionary.get? fields "markers")⟩
  | _ => default

/-- The rules that a JSON text describes. -/
def ofText (source : Text) : Except Json.Fault Rules := (Json.parse source).map ofJson

/-- The JSON value that describes the rules. -/
def toJson (rules : Rules) : Json :=
  .object (("headings", .bool rules.headings) ::
    match rules.markers with
    | some map => [("markers", map.toJson)]
    | none => [])

end Rules

end MarkupDesk.Markup
