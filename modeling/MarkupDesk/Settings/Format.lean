/-
`Settings/Format.lean` -- settings as TOML, and given as a JSON value.

The TOML form has a line per field; fields without a value are left out. Reading it
ignores what it does not know and refuses a field of the wrong type. A JSON value gives
settings with a default in place of each missing field.
-/
import MarkupDesk.Settings.Basic
import MarkupDesk.Json.Problem
import MarkupDesk.Toml.Assembly
import MarkupDesk.Toml.Printer

set_option autoImplicit false

namespace MarkupDesk

/-! ## 1. Writing -/

namespace Settings

/-- The TOML form, unless a number is too large for it. -/
def toText? (settings : Settings) : Option Text := do
  let text (key : Text) (value : Option Text) : Text :=
    match value with
    | some value => Toml.line key (Toml.stringText value)
    | none => []
  let autosave ← Toml.integerText? settings.autosaveMillis
  let tabWidth ← Toml.integerText? settings.tabWidth
  some (text "presets_dir" settings.presetsDirectory
    ++ text "data_dir" settings.dataDirectory
    ++ text "default_preset" settings.defaultPreset
    ++ text "theme" (some settings.theme.name)
    ++ text "light_theme" (some settings.lightTheme)
    ++ text "dark_theme" (some settings.darkTheme)
    ++ Toml.line "reference_collapsed" (Toml.booleanText settings.referenceCollapsed)
    ++ Toml.line "autosave_ms" autosave
    ++ Toml.line "tab_width" tabWidth)

end Settings

/-! ## 2. Reading TOML -/

namespace GivenSettings

open Toml (Placed Problem)

/-- A value that is not of the expected kind. -/
def tomlWrongKind {α : Type} (placed : Placed Toml) (expected : Text) : Except Problem α :=
  .error ⟨placed.shown, "invalid type: " ++ placed.value.described ++ ", expected " ++ expected⟩

/-- A string. -/
def tomlText (expected : Text) (placed : Placed Toml) : Except Problem Text :=
  match placed.value with
  | .string t => .ok t
  | _ => tomlWrongKind placed expected

/-- A truth value. -/
def tomlBoolean (placed : Placed Toml) : Except Problem Bool :=
  match placed.value with
  | .boolean b => .ok b
  | _ => tomlWrongKind placed "a boolean"

/-- A natural number. -/
def tomlNat (expected : Text) (placed : Placed Toml) : Except Problem Nat :=
  match placed.value with
  | .integer z =>
    if 0 ≤ z then .ok z.toNat
    else
      .error
        ⟨placed.shown, "invalid value: " ++ placed.value.described ++ ", expected " ++ expected⟩
  | _ => tomlWrongKind placed expected

/-- The mode with a name that stands there. -/
def tomlThemeOfName (span : Toml.Span) (name : Text) : Except Problem ThemeMode :=
  match ThemeMode.ofName? name with
  | some mode => .ok mode
  | none =>
    .error ⟨span, (Json.Problem.unknownVariant name (ThemeMode.all.map ThemeMode.name)).message⟩

/-- What is wrong with a value that should hold nothing, if it holds something. -/
def tomlNotEmpty? : Toml → Option Text
  | .tables items => if items.isEmpty then none else some "expected empty array"
  | .array items => if items.isEmpty then none else some "expected empty table"
  | .table _ members => if members.isEmpty then none else some "expected empty table"
  | value => some ("expected table, found " ++ value.kindName)

/-- A theme mode: its name, or a table that holds nothing but an empty value by that
name. -/
def tomlTheme (placed : Placed Toml) : Except Problem ThemeMode :=
  match placed.value with
  | .string name => tomlThemeOfName placed.shown name
  | .table _ [] => .error ⟨placed.shown, "wanted exactly 1 element, found 0 elements"⟩
  | .table _ [(name, inner)] => do
    let mode ← tomlThemeOfName inner.key name
    match tomlNotEmpty? inner.value with
    | none => .ok mode
    | some message => .error ⟨inner.span.getD placed.shown, message⟩
  | .table _ _ => .error ⟨placed.shown, "wanted exactly 1 element, more than 1 element"⟩
  | _ => .error ⟨placed.shown, "wanted string or table"⟩

/-- The settings with one field set. What is no field is ignored. -/
def setTomlField (given : GivenSettings) (name : Text) (placed : Placed Toml) :
    Except Problem GivenSettings :=
  match String.ofList name with
  | "presets_dir" => do
    return { given with presetsDirectory := some (← tomlText "path string" placed) }
  | "data_dir" => do
    return { given with dataDirectory := some (← tomlText "path string" placed) }
  | "default_preset" => do
    return { given with defaultPreset := some (← tomlText "a string" placed) }
  | "theme" => do return { given with theme := some (← tomlTheme placed) }
  | "light_theme" => do return { given with lightTheme := some (← tomlText "a string" placed) }
  | "dark_theme" => do return { given with darkTheme := some (← tomlText "a string" placed) }
  | "reference_collapsed" => do
    return { given with referenceCollapsed := some (← tomlBoolean placed) }
  | "autosave_ms" => do return { given with autosaveMillis := some (← tomlNat "u64" placed) }
  | "tab_width" => do return { given with tabWidth := some (← tomlNat "usize" placed) }
  | _ => .ok given

/-- The settings that a table gives; of several wrong fields the first one is told. -/
def ofMembers (members : Toml.Members) : Except Problem GivenSettings :=
  members.foldlM (fun given member => given.setTomlField member.1 member.2) nothing

/-- The settings that a text gives. -/
def ofText (source : Text) : Except Problem GivenSettings := do
  ofMembers (← (Toml.parse source).mapError (Problem.ofFault source))

end GivenSettings

/-! ## 3. Reading JSON -/

namespace Settings

open Json (Found Problem)

/-- A value that is not of the expected kind. -/
def wrongKind {α : Type} (value : Json) (expected : Text) : Except Problem α :=
  .error (.wrongKind (Found.ofJson value) expected)

/-- A string. -/
def jsonText (expected : Text) : Json → Except Problem Text
  | .string t => .ok t
  | value => wrongKind value expected

/-- `null`, or what `read` makes of the value. -/
def jsonOptional {α : Type} (read : Json → Except Problem α) : Json → Except Problem (Option α)
  | .null => .ok none
  | value => (read value).map some

/-- A truth value. -/
def jsonBoolean : Json → Except Problem Bool
  | .bool b => .ok b
  | value => wrongKind value "a boolean"

/-- A number of at most 64 bits. -/
def jsonNat (expected : Text) : Json → Except Problem Nat
  | .number (.integer z) =>
    if 0 ≤ z then .ok z.toNat else .error (.wrongValue (.number (.integer z)) expected)
  | value => wrongKind value expected

/-- The mode with a name. -/
def themeOfName (name : Text) : Except Problem ThemeMode :=
  match ThemeMode.ofName? name with
  | some mode => .ok mode
  | none => .error (.unknownVariant name (ThemeMode.all.map ThemeMode.name))

/-- A theme mode: its name, or an object that holds nothing but `null` by that name. -/
def jsonTheme : Json → Except Problem ThemeMode
  | .string name => themeOfName name
  | .object [(name, value)] => do
    let mode ← themeOfName name
    match value with
    | .null => .ok mode
    | value => wrongKind value "unit"
  | .object members => .error (.wrongValue (Found.ofJson (.object members)) "map with a single key")
  | value => wrongKind value "string or map"

/-- The names of the fields, in order. -/
def fieldNames : List Text :=
  ["presets_dir", "data_dir", "default_preset", "theme", "light_theme", "dark_theme",
    "reference_collapsed", "autosave_ms", "tab_width"]

/-- The settings with one field set. What is no field is ignored. -/
def setField (settings : Settings) (name : Text) (value : Json) : Except Problem Settings :=
  match String.ofList name with
  | "presets_dir" => do
    return { settings with presetsDirectory := ← jsonOptional (jsonText "path string") value }
  | "data_dir" => do
    return { settings with dataDirectory := ← jsonOptional (jsonText "path string") value }
  | "default_preset" => do
    return { settings with defaultPreset := ← jsonOptional (jsonText "a string") value }
  | "theme" => do return { settings with theme := ← jsonTheme value }
  | "light_theme" => do return { settings with lightTheme := ← jsonText "a string" value }
  | "dark_theme" => do return { settings with darkTheme := ← jsonText "a string" value }
  | "reference_collapsed" => do return { settings with referenceCollapsed := ← jsonBoolean value }
  | "autosave_ms" => do return { settings with autosaveMillis := ← jsonNat "u64" value }
  | "tab_width" => do return { settings with tabWidth := ← jsonNat "usize" value }
  | _ => .ok settings

/-- The settings that a JSON value gives: an object, or the array of the first fields. -/
def ofJson (defaults : Settings) : Json → Except Problem Settings
  | .object members => members.foldlM (fun s member => s.setField member.1 member.2) defaults
  | .array items => do
    let members := fieldNames.zip items
    let settings ← members.foldlM (fun s member => s.setField member.1 member.2) defaults
    if fieldNames.length < items.length then
      throw (.wrongLength items.length "fewer elements in array")
    return settings
  | value => wrongKind value "struct Config"

end Settings

end MarkupDesk
