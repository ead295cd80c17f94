/-
`Preset/Catalog.lean` -- the presets to choose from.

A catalog is a list of presets with different ids. A preset with an id that is there
already takes the place of the old one. A catalog that is loaded holds the built-in
preset and those found in a directory, by name.
-/
import MarkupDesk.Files.Listing
import MarkupDesk.Preset.Builtin
import MarkupDesk.Preset.Loading
import MarkupDesk.Text.Lower

set_option autoImplicit false

namespace MarkupDesk

/-- Presets to choose from. -/
structure Catalog where
  presets : List Preset
  deriving Repr

namespace Catalog

/-- The catalog without presets. -/
def empty : Catalog := ⟨[]⟩

instance : Inhabited Catalog := ⟨empty⟩

/-- The list with the preset in the place of the first one that has its id, or at the
end. -/
def place (preset : Preset) : List Preset → List Preset
  | [] => [preset]
  | other :: others =>
    if other.id = preset.id then preset :: others else other :: place preset others

/-- Adds a preset, or replaces the one with its id. -/
def insert (catalog : Catalog) (preset : Preset) : Catalog := ⟨place preset catalog.presets⟩

/-- The preset with an id. -/
def get? (catalog : Catalog) (id : Text) : Option Preset :=
  catalog.presets.find? fun preset => preset.id = id

/-- The preset with the id, if there is one, else the first one. -/
def select? (catalog : Catalog) (id : Option Text) : Option Preset :=
  match id.bind catalog.get? with
  | some preset => some preset
  | none => catalog.presets.head?

/-- The number of presets. -/
def size (catalog : Catalog) : Nat := catalog.presets.length

/-- What the presets are sorted by: the name that is shown, in lower case. -/
def sortKey (preset : Preset) : Text := Text.lower preset.displayName

/-- Does the first text come before the second or is it the same, character by
character? -/
def textLe : Text → Text → Bool
  | [], _ => true
  | _ :: _, [] => false
  | a :: t, b :: u => a.toNat < b.toNat || (a == b && textLe t u)

/-- The catalog by name; presets of the same name keep their order. -/
def sorted (catalog : Catalog) : Catalog :=
  ⟨catalog.presets.mergeSort fun p q => textLe (sortKey p) (sortKey q)⟩

/-- The catalog of the built-in preset and those that were found. -/
def ofFound (found : List Preset) : Catalog :=
  (found.foldl insert ⟨[Preset.builtin]⟩).sorted

/-! ## Finding presets -/

/-- The name of the files that hold presets. -/
def presetFileName : Text := "preset.json"

/-- The paths of the preset files at or below a path, as the directories list them. -/
def presetPaths (disk : Files.Disk) (cwd : Files.Location) (directory : Path) : List Path :=
  match disk.stat cwd directory with
  | .error _ => []
  | .ok (.file _) =>
    if (Path.fileName? directory).getD directory = presetFileName then [directory] else []
  | .ok .directory =>
    let location := (disk.locate cwd directory).toOption.getD []
    let names := (disk.below location).filterMap fun found =>
      match found.2 with
      | .file _ => if found.1.getLast? = some presetFileName then some found.1 else none
      | .directory => none
    (names.mergeSort Files.listedLe).map (·.foldl Path.join directory)

/-- The presets in a directory and below. Those that cannot be loaded are left out. -/
def discover (directory : Path) : StateM Session (List Preset) := do
  let paths ← Files.inspect fun disk cwd => presetPaths disk cwd directory
  let found ← paths.mapM fun path => (Preset.load path).run
  return found.filterMap (·.toOption)

/-- The catalog of the built-in preset and those in a directory, if one is given. -/
def load (directory : Option Path) : StateM Session Catalog := do
  match directory with
  | some directory => return ofFound (← discover directory)
  | none => return ofFound []

end Catalog

end MarkupDesk
