/-
`Markup/Marker.lean` -- the elements that markers stand for.

A marker `{key:content}` becomes an element; which one is configured per key.
`MarkerMap` keeps the configuration in the order in which the keys were first
given, because markers are expanded key by key in that order. Giving a key again
changes its element and leaves its place, so every key stands once; a map carries the
proof of that.
-/
import MarkupDesk.Dictionary

set_option autoImplicit false

namespace MarkupDesk.Markup

/-- The element that a marker becomes: its tag and, if it has one, its class. -/
structure MarkerSpec where
  tag : Text
  cls : Option Text
  deriving DecidableEq, Repr

namespace MarkerSpec

/-- The tag of a marker whose configuration names none. -/
def defaultTag : Text := ['s', 'p', 'a', 'n']

instance : Inhabited MarkerSpec := ⟨⟨defaultTag, none⟩⟩

/-- The opening tag, with the class when there is one. -/
def openingTag (spec : MarkerSpec) : Text :=
  let classText : Text :=
    match spec.cls with
    | some cls => " class=\"" ++ cls ++ ['"']
    | none => []
  '<' :: spec.tag ++ classText ++ ['>']

/-- The closing tag. -/
def closingTag (spec : MarkerSpec) : Text := '<' :: '/' :: spec.tag ++ ['>']

/-- The element with `inner` between its tags. -/
def element (spec : MarkerSpec) (inner : Text) : Text :=
  spec.openingTag ++ inner ++ spec.closingTag

end MarkerSpec

/-- Elements by marker key, in order of configuration. Keys are case-sensitive. -/
structure MarkerMap where
  entries : Dictionary Text MarkerSpec
  distinct : (Dictionary.keys entries).Nodup
  deriving DecidableEq, Repr

namespace MarkerMap

/-- No markers. -/
def empty : MarkerMap := ⟨[], List.nodup_nil⟩

instance : Inhabited MarkerMap := ⟨empty⟩

/-- Gives `key` the element `spec`, in the place that the key already has. -/
def insert (map : MarkerMap) (key : Text) (spec : MarkerSpec) : MarkerMap :=
  ⟨Dictionary.insert map.entries key spec, Dictionary.nodup_keys_insert map.distinct key spec⟩

/-- The element of `key`. -/
def get? (map : MarkerMap) (key : Text) : Option MarkerSpec := Dictionary.get? map.entries key

/-- The keys, in order. -/
def keys (map : MarkerMap) : List Text := Dictionary.keys map.entries

/-- The number of keys. -/
def size (map : MarkerMap) : Nat := map.entries.length

/-- The map that `insert` makes of the pairs, one after the other. -/
def ofPairs (pairs : List (Text × MarkerSpec)) : MarkerMap :=
  pairs.foldl (fun map pair => map.insert pair.1 pair.2) empty

end MarkerMap

end MarkupDesk.Markup
