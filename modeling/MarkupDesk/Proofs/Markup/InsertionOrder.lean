/-
`Proofs/Markup/InsertionOrder.lean` -- markers stand in the order in which they came.

Markers come one after the other, from a `markers` object that is read and from keys that are set
later. What a map of markers tells is told by this sequence of inserts (`MarkerMap.Records`): it has
each key once, at the place of its first insert and with the element of its last one. The order is
that in which markers are expanded and in which they are suggested.

However rules were made, their map is the one that `ofPairs` makes of the inserts
(`Made.markers_eq`), so all of this is known from dictionaries.
-/
import MarkupDesk.Markup.Configuration
import MarkupDesk.Proofs.Dictionary
import MarkupDesk.Proofs.Markup.Configuration

set_option autoImplicit false

namespace MarkupDesk.Markup

/-! ## 1. Maps -/

namespace MarkerMap

/-- The map tells what came in the inserts, from the first one to the last one. -/
structure Records (map : MarkerMap) (inserts : List (Text × MarkerSpec)) : Prop where
  once : map.keys.Nodup
  mem_keys : ∀ key, key ∈ map.keys ↔ key ∈ inserts.map Prod.fst
  /-- A key stands before the ones that came first after it did. -/
  order : map.keys.Pairwise fun a b =>
    (inserts.map Prod.fst).idxOf a < (inserts.map Prod.fst).idxOf b
  /-- The last insert of a key counts. -/
  last : ∀ key spec, map.get? key = some spec ↔
    ∃ front back, inserts = front ++ (key, spec) :: back ∧ key ∉ back.map Prod.fst
  never : ∀ key, map.get? key = none ↔ key ∉ inserts.map Prod.fst
  size : map.size = (inserts.map Prod.fst).toFinset.card

theorem ofPairs_concat (inserts : List (Text × MarkerSpec)) (key : Text) (spec : MarkerSpec) :
    ofPairs (inserts ++ [(key, spec)]) = (ofPairs inserts).insert key spec := by
  rw [ofPairs, List.foldl_append]
  rfl

/-- **A map records the inserts** that made it. -/
theorem records_ofPairs (inserts : List (Text × MarkerSpec)) : (ofPairs inserts).Records inserts := by
  have hkeys : (ofPairs inserts).keys = Dictionary.keys (Dictionary.ofPairs inserts) := by
    rw [keys, entries_ofPairs]
  have hget : ∀ key, (ofPairs inserts).get? key =
      Dictionary.get? (Dictionary.ofPairs inserts) key := by
    intro key
    rw [get?, entries_ofPairs]
  refine ⟨(ofPairs inserts).distinct, fun key => ?_, ?_, fun key spec => ?_, fun key => ?_, ?_⟩
  · rw [hkeys, Dictionary.mem_keys_ofPairs]
  · rw [hkeys]
    exact Dictionary.pairwise_keys_ofPairs inserts
  · rw [hget, Dictionary.get?_ofPairs_eq_some_iff]
  · rw [hget, Dictionary.get?_eq_none_iff, Dictionary.mem_keys_ofPairs]
  · rw [size, entries_ofPairs, Dictionary.length_ofPairs]

end MarkerMap

/-! ## 2. Rules -/

namespace Rules

/-- The inserts that are made for a `markers` field: one for each member of an object. -/
def fieldInserts : Option Json → List (Text × MarkerSpec)
  | some (.object members) => members.map fun member => (member.1, MarkerSpec.ofJson member.2)
  | _ => []

/-- The inserts that are made when rules are read. -/
def insertsOf : Json → List (Text × MarkerSpec)
  | .object fields => fieldInserts (Dictionary.get? fields "markers")
  | _ => []

/-- The rules, and the inserts that made their markers. -/
inductive Made : Rules → List (Text × MarkerSpec) → Prop where
  | standard : Made default []
  | read (value : Json) : Made (ofJson value) (insertsOf value)
  | headings {rules : Rules} {inserts : List (Text × MarkerSpec)} (enabled : Bool)
    (h : Made rules inserts) : Made (rules.withHeadings enabled) inserts
  | marker {rules : Rules} {inserts : List (Text × MarkerSpec)} (key : Text) (spec : MarkerSpec)
    (h : Made rules inserts) : Made (rules.withMarker key spec) (inserts ++ [(key, spec)])

/-- The markers that a field is read as are those of the inserts it tells. -/
theorem markers_of_field (field : Option Json) :
    (markersOfJson field).getD .empty = .ofPairs (fieldInserts field) := by
  cases field with
  | none => rfl
  | some value => cases value <;> rfl

/-- The markers that are read are those of the inserts that the value tells. -/
theorem markers_ofJson (value : Json) :
    (ofJson value).markers.getD .empty = .ofPairs (insertsOf value) := by
  cases value with
  | object fields => exact markers_of_field _
  | _ => rfl

/-- However rules were made, their map is made of the inserts. The induction is on how the
rules were made; a map that is missing so far counts as an empty one. -/
theorem Made.markers_eq {rules : Rules} {inserts : List (Text × MarkerSpec)}
    (h : Made rules inserts) : rules.markers.getD .empty = .ofPairs inserts := by
  induction h with
  | standard => rfl
  | read value => exact markers_ofJson value
  | headings enabled _ ih => exact ih
  | marker key spec _ ih =>
    rw [MarkerMap.ofPairs_concat, ← ih]
    rfl

theorem markerKeys_eq (rules : Rules) : rules.markerKeys = (rules.markers.getD .empty).keys := by
  rw [markerKeys]
  cases rules.markers <;> rfl

/-- **Markers stand in the order in which they came.** A map records the inserts that made it, and
so do the markers of rules, whether they were read or set: each key stands once, in the order of the
first inserts, its element is that of the last insert, and there are as many keys as different ones
were inserted. One more insert changes neither the element nor the place of another key. -/
theorem made_ordered :
    (∀ inserts, (MarkerMap.ofPairs inserts).Records inserts) ∧
      (∀ rules inserts, Made rules inserts →
        (rules.markers.getD .empty).Records inserts ∧
          rules.markerKeys = (rules.markers.getD .empty).keys) ∧
      ∀ (map : MarkerMap) (key other : Text) (spec : MarkerSpec), other ≠ key →
        (map.insert key spec).get? other = map.get? other ∧
          ∀ i : Nat, (map.insert key spec).keys[i]? = some other ↔ map.keys[i]? = some other := by
  refine ⟨MarkerMap.records_ofPairs, fun rules inserts h => ⟨?_, rules.markerKeys_eq⟩,
    fun map key other spec hne => ⟨?_, fun i => ?_⟩⟩
  · rw [h.markers_eq]
    exact MarkerMap.records_ofPairs inserts
  · exact Dictionary.get?_insert_of_ne hne spec map.entries
  · exact Dictionary.getElem?_keys_insert_of_ne hne spec map.entries i

/-- Two markers are read, then the first one gets another element and a third one comes. -/
def reorderedJson : Json :=
  .object [("markers", .object [("b", .null), ("i", .object [("tag", .string "em")])])]

/-- The rules that are made in this way. -/
def reorderedRules : Rules :=
  ((ofJson reorderedJson).withMarker "b" ⟨"strong", none⟩).withMarker "a" ⟨"a", some "x"⟩

theorem made_reorderedRules :
    Made reorderedRules
      [(['b'], default), (['i'], ⟨"em", none⟩), (['b'], ⟨"strong", none⟩), (['a'], ⟨"a", some "x"⟩)] :=
  .marker "a" _ (.marker "b" _ (.read reorderedJson))

/-- A key that is set again keeps its place and gets the new element, and the key behind it is
left alone. -/
theorem made_ordered_replacing :
    ∃ inserts, Made reorderedRules inserts ∧ inserts.map Prod.fst = [['b'], ['i'], ['b'], ['a']] ∧
      (reorderedRules.markers.getD .empty).Records inserts ∧
      reorderedRules.markerKeys = [['b'], ['i'], ['a']] ∧
      (reorderedRules.markers.getD .empty).get? ['b'] = some ⟨"strong", none⟩ ∧
      (['i'] : Text) ≠ ['b'] ∧
      (((ofJson reorderedJson).markers.getD .empty).insert ['b'] ⟨"strong", none⟩).get? ['i'] =
        ((ofJson reorderedJson).markers.getD .empty).get? ['i'] := by
  have hne : (['i'] : Text) ≠ ['b'] := by decide
  obtain ⟨hrecords, hkeys⟩ := made_ordered.2.1 _ _ made_reorderedRules
  exact ⟨_, made_reorderedRules, rfl, hrecords, hkeys.trans (by decide), by decide, hne,
    (made_ordered.2.2 _ _ _ _ hne).1⟩

end Rules

end MarkupDesk.Markup
