/-
`Proofs/Markup/Configuration.lean` -- rules survive being written.

Reading takes any value, and whatever it makes of a value it makes of what is written for that
again: a tag is a string then, a class is a string that is not empty or is not there at all, every
key stands once, and headings are on or off. One thing only can be lost on the way, a class that is
empty, which reading never makes (`classed_ofJson`). So the rules that are `Classed` are what is
read for what is written for them (`ofJson_toJson`), as a value, and as a text in either form of
the printer (`reached_written`).
-/
import MarkupDesk.Markup.Configuration
import MarkupDesk.Proofs.Json.Plain

set_option autoImplicit false

namespace MarkupDesk

/-! ## 1. The texts of numbers -/

theorem Text.ofNat_ne_nil (n : Nat) : Text.ofNat n ≠ [] :=
  List.ne_nil_of_length_pos Nat.length_toDigits_pos

theorem Text.ofInt_ne_nil (z : Int) : Text.ofInt z ≠ [] := by
  unfold Text.ofInt
  split
  · exact List.cons_ne_nil _ _
  · exact Text.ofNat_ne_nil _

/-- No layout writes a decimal as nothing, with an exponent or without. -/
theorem Number.Layout.format_ne_nil (layout : Number.Layout) (d : Number.Decimal) :
    layout.format d ≠ [] := by
  have hdigits := Text.ofNat_ne_nil d.digits
  unfold Number.Layout.format
  simp only
  split
  · exact List.cons_ne_nil _ _
  split
  · split
    · simp [hdigits]
    split
    · simp
    · exact List.cons_ne_nil _ _
  · simp

/-- A number has a text. -/
theorem JsonNumber.toText_ne_nil (n : JsonNumber) : n.toText ≠ [] := by
  cases n with
  | integer value => exact Text.ofInt_ne_nil value
  | double value =>
    intro hnil
    exact Number.Layout.format_ne_nil _ _ (List.append_eq_nil_iff.1 hnil).2

namespace Markup

open Json (Plain)

/-! ## 2. Elements -/

namespace MarkerSpec

variable {spec : MarkerSpec}

/-- The class, if there is one, is not empty. -/
def Classed (spec : MarkerSpec) : Prop := spec.cls ≠ some []

instance (spec : MarkerSpec) : Decidable spec.Classed := inferInstanceAs (Decidable (_ ≠ _))

/-- No field names the empty class. -/
theorem classOfJson_ne (field : Option Json) : classOfJson field ≠ some [] := by
  unfold classOfJson
  split
  · split
    · exact (Option.some_ne_none []).symm
    next hfilled =>
      intro hnil
      rw [Option.some.inj hnil] at hfilled
      exact hfilled rfl
  · split
    · exact (Option.some_ne_none []).symm
    · exact fun hnil => JsonNumber.toText_ne_nil _ (Option.some.inj hnil)
  · decide
  · exact (Option.some_ne_none []).symm

/-- An element that is read never has an empty class. -/
theorem classed_ofJson (value : Json) : (ofJson value).Classed := by
  cases value with
  | object fields => exact classOfJson_ne _
  | _ => exact (Option.some_ne_none []).symm

/-- **An element is read again** as what it was. -/
theorem ofJson_toJson (h : spec.Classed) : ofJson spec.toJson = spec := by
  obtain ⟨tag, cls⟩ := spec
  cases cls with
  | none => rfl
  | some cls =>
    have hfilled : ¬ cls.isEmpty = true := by
      intro hempty
      exact h (congrArg some (List.isEmpty_iff.1 hempty))
    show MarkerSpec.mk tag (if cls.isEmpty then none else some cls) = _
    rw [if_neg hfilled]

/-- What is written for an element is plain: a tag and perhaps a class. -/
theorem plain_toJson (spec : MarkerSpec) : Plain 1 spec.toJson := by
  obtain ⟨tag, cls⟩ := spec
  cases cls with
  | none => exact .object (by simp [Dictionary.keys]) (by simp [Plain.string])
  | some cls => exact .object (by simp [Dictionary.keys]) (by simp [Plain.string])

end MarkerSpec

/-! ## 3. Maps of markers -/

namespace MarkerMap

variable {map : MarkerMap}

/-- No marker has an empty class. -/
def Classed (map : MarkerMap) : Prop := ∀ entry ∈ map.entries, entry.2.Classed

instance (map : MarkerMap) : Decidable map.Classed :=
  inferInstanceAs (Decidable (∀ entry ∈ map.entries, entry.2.Classed))

theorem Classed.empty : Classed .empty := List.forall_mem_nil _

theorem Classed.insert (h : map.Classed) (key : Text) {spec : MarkerSpec} (hspec : spec.Classed) :
    (map.insert key spec).Classed := by
  intro entry hentry
  rcases Dictionary.eq_or_mem_of_mem_insert hentry with rfl | hmem
  · exact hspec
  · exact h entry hmem

/-- The entries of a map are those of the dictionary that is made of the same pairs. -/
theorem entries_ofPairs (pairs : List (Text × MarkerSpec)) :
    (ofPairs pairs).entries = Dictionary.ofPairs pairs := by
  have hfold : ∀ map : MarkerMap,
      (pairs.foldl (fun map pair => map.insert pair.1 pair.2) map).entries =
        pairs.foldl (fun entries pair => Dictionary.insert entries pair.1 pair.2) map.entries := by
    induction pairs with
    | nil => exact fun map => rfl
    | cons pair pairs ih => exact fun map => ih (map.insert pair.1 pair.2)
  exact hfold .empty

/-- A map has no empty class if the pairs it is made of have none. -/
theorem classed_ofPairs {pairs : List (Text × MarkerSpec)} (h : ∀ pair ∈ pairs, pair.2.Classed) :
    (ofPairs pairs).Classed := by
  have hfold : ∀ map : MarkerMap, map.Classed →
      (pairs.foldl (fun map pair => map.insert pair.1 pair.2) map).Classed := by
    induction pairs with
    | nil => exact fun map hmap => hmap
    | cons pair pairs ih =>
      obtain ⟨hpair, hpairs⟩ := List.forall_mem_cons.1 h
      exact fun map hmap => ih hpairs _ (hmap.insert pair.1 hpair)
  exact hfold .empty .empty

theorem classed_ofMembers (members : List (Text × Json)) : (ofMembers members).Classed := by
  apply classed_ofPairs
  intro pair hpair
  obtain ⟨member, -, rfl⟩ := List.mem_map.1 hpair
  exact MarkerSpec.classed_ofJson member.2

/-- The members that are written for a map. -/
def members (map : MarkerMap) : List (Text × Json) :=
  map.entries.map fun entry => (entry.1, entry.2.toJson)

/-- What is written for a map has the keys of the map, in their order. -/
theorem keys_members (map : MarkerMap) : Dictionary.keys map.members = map.keys := by
  rw [members, Dictionary.keys, List.map_map]
  rfl

/-- **A map is read again** as what it was, with its keys in the same order. -/
theorem ofMembers_members (h : map.Classed) : ofMembers map.members = map := by
  have hpairs : map.members.map (fun member => (member.1, MarkerSpec.ofJson member.2)) =
      map.entries := by
    rw [members, List.map_map]
    refine (List.map_congr_left fun entry hentry => ?_).trans (List.map_id map.entries)
    exact Prod.ext rfl (MarkerSpec.ofJson_toJson (h entry hentry))
  have hentries : (ofMembers map.members).entries = map.entries := by
    rw [ofMembers, hpairs, entries_ofPairs]
    exact Dictionary.ofPairs_eq_self map.distinct
  -- two maps with the same entries are the same, as the other field is a proof
  obtain ⟨entries, distinct⟩ := map
  cases hread : ofMembers (members ⟨entries, distinct⟩) with
  | mk entries' distinct' =>
    rw [hread] at hentries
    obtain rfl : entries' = entries := hentries
    rfl

/-- What is written for a map is plain, since its keys are all different. -/
theorem plain_toJson (map : MarkerMap) : Plain 2 map.toJson := by
  refine .object ?_ ?_
  · have hdistinct := map.distinct
    rwa [← MarkerMap.keys, ← keys_members] at hdistinct
  · intro member hmember
    obtain ⟨entry, -, rfl⟩ := List.mem_map.1 hmember
    exact entry.2.plain_toJson

end MarkerMap

/-! ## 4. Rules -/

namespace Rules

variable {rules : Rules}

/-- No marker of the rules has an empty class. -/
def Classed (rules : Rules) : Prop := ∀ map ∈ rules.markers, map.Classed

/-- Rules that are read have no empty class. -/
theorem classed_ofJson (value : Json) : (ofJson value).Classed := by
  intro map hmap
  cases value with
  | object fields =>
    change map ∈ markersOfJson (Dictionary.get? fields "markers") at hmap
    unfold markersOfJson at hmap
    split at hmap
    · rw [← Option.some.inj hmap]
      exact MarkerMap.classed_ofMembers _
    · cases hmap
  | _ => cases hmap

theorem Classed.withHeadings (h : rules.Classed) (enabled : Bool) :
    (rules.withHeadings enabled).Classed := h

/-- Rules without empty classes remain so when a marker without one is set. -/
theorem Classed.withMarker (h : rules.Classed) (key : Text) {spec : MarkerSpec}
    (hspec : spec.Classed) : (rules.withMarker key spec).Classed := by
  have hmap : (rules.markers.getD .empty).Classed := by
    cases hmarkers : rules.markers with
    | none => exact .empty
    | some map => exact h map hmarkers
  intro map hmem
  rw [← Option.some.inj hmem]
  exact hmap.insert key hspec

/-- **Rules are read again** as what they were. -/
theorem ofJson_toJson (h : rules.Classed) : ofJson rules.toJson = rules := by
  obtain ⟨headings, markers⟩ := rules
  have hheadings : headingsOfJson (some (.bool headings)) = headings := by
    cases headings <;> rfl
  cases markers with
  | none =>
    show Rules.mk (headingsOfJson (some (.bool headings))) none = _
    rw [hheadings]
  | some map =>
    show Rules.mk (headingsOfJson (some (.bool headings))) (some (.ofMembers map.members)) = _
    rw [hheadings, MarkerMap.ofMembers_members (h map rfl)]

/-- What is written for rules is plain, and three levels deep at most. -/
theorem plain_toJson (rules : Rules) : Plain 3 rules.toJson := by
  obtain ⟨headings, markers⟩ := rules
  cases markers with
  | none => exact .object (by simp [Dictionary.keys]) (by simp [Plain.bool])
  | some map =>
    have hmap : Plain 2 map.toJson := map.plain_toJson
    exact .object (by simp [Dictionary.keys]) (by simp [Plain.bool, hmap])

/-- Rules that were read from some value, and that were changed step by step. A class that is set on
the way is not empty. -/
inductive Reached : Rules → Prop where
  | read (value : Json) : Reached (ofJson value)
  | headings {rules : Rules} (enabled : Bool) (h : Reached rules) :
    Reached (rules.withHeadings enabled)
  | marker {rules : Rules} (key : Text) {spec : MarkerSpec} (hspec : spec.Classed)
    (h : Reached rules) : Reached (rules.withMarker key spec)

/-- No rules that can be reached have an empty class: those that are read have none, and no
marker with one may be set. -/
theorem Reached.classed (h : Reached rules) : rules.Classed := by
  induction h with
  | read value => exact classed_ofJson value
  | headings enabled _ ih => exact ih.withHeadings enabled
  | marker key hspec _ ih => exact ih.withMarker key hspec

/-- **Rules survive being written.** What is written for rules that were read and changed is read as
these rules, as a value, and as a text on one line or over lines. So reading what is written for
what was read changes nothing, whatever the value was. -/
theorem reached_written :
    (∀ rules, Reached rules →
      ofJson rules.toJson = rules ∧
      ofText rules.toJson.compact = .ok rules ∧
      ofText rules.toJson.pretty = .ok rules) ∧
    ∀ value, ofJson (ofJson value).toJson = ofJson value := by
  refine ⟨fun rules h => ?_, fun value => ofJson_toJson (classed_ofJson value)⟩
  have hvalue := ofJson_toJson h.classed
  obtain ⟨hcompact, hpretty⟩ := (rules.plain_toJson.mono (by decide : 3 ≤ Json.maxDepth)).parse_eq
  refine ⟨hvalue, ?_, ?_⟩
  · rw [ofText, hcompact]
    exact congrArg Except.ok hvalue
  · rw [ofText, hpretty]
    exact congrArg Except.ok hvalue

/-- Two markers, of which the first one is a number for its tag and another one for its class. -/
def numberedJson : Json :=
  .object [("headings", .bool false),
    ("markers", .object
      [("b", .object [("tag", .number (.integer 7)), ("class", .number (.integer 12))]),
        ("a", .null)])]

/-- The rules with another element for the second marker, and one marker more. -/
def numberedRules : Rules :=
  (((ofJson numberedJson).withHeadings true).withMarker "a" ⟨"em", some "x"⟩).withMarker "c"
    ⟨"i", none⟩

/-- Rules are read with numbers for a tag and a class, and changed. What is written for them
is read as the same rules. -/
theorem reached_written_numbered :
    Reached numberedRules ∧
      (numberedRules.markers.map fun map => map.entries) =
        some [(['b'], ⟨['7'], some ['1', '2']⟩), (['a'], ⟨"em", some "x"⟩), (['c'], ⟨"i", none⟩)] ∧
      ofText numberedRules.toJson.compact = .ok numberedRules := by
  have hreached : Reached numberedRules :=
    .marker "c" (by decide) (.marker "a" (by decide) (.headings true (.read numberedJson)))
  exact ⟨hreached, by decide, (reached_written.1 numberedRules hreached).2.1⟩

end Rules

end Markup

end MarkupDesk
