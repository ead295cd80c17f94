/-
`Proofs/Settings/Format.lean` -- settings as TOML, there and back.

A `Field` is a field of the settings with its key and the value that it has in a file. Reading goes
through the members one after the other, and each can change the field with its key only; as no key
comes twice, a field holds in the end what the member with its key says (`Field.get_ofMembers`). So
the settings that a file gives have its values, and defaults for those that it lacks
(`fromFile_of_ofText`). Settings are written as lines with one key and one scalar each, and reading
gives them back (`ofText_toText?`).
-/
import MarkupDesk.Proofs.Toml.Document
import MarkupDesk.Proofs.Toml.Members
import MarkupDesk.Settings.Format
import Mathlib.Data.List.Nodup

set_option autoImplicit false

namespace MarkupDesk

open Toml (Bare Fits Members Placed Problem Row Scalar document maxInteger saying
  scalar_booleanText scalar_integerText? scalar_stringText)

/-- The numbers fit into a file. -/
structure Settings.Storable (settings : Settings) : Prop where
  autosaveMillis : settings.autosaveMillis ≤ maxInteger
  tabWidth : settings.tabWidth ≤ maxInteger

namespace GivenSettings

attribute [ext] GivenSettings

variable {given given' start : GivenSettings} {name source t expected : Text} {placed : Placed Toml}
  {members : Members} {α : Type} {n : Nat}

/-! ## 1. Scalars -/

theorem tomlText_of_value (expected : Text) (h : placed.value = .string t) :
    tomlText expected placed = .ok t := by
  rw [tomlText, h]

theorem tomlBoolean_of_value {b : Bool} (h : placed.value = .boolean b) : tomlBoolean placed = .ok b := by
  rw [tomlBoolean, h]

theorem tomlNat_of_value (expected : Text) (h : placed.value = .integer n) :
    tomlNat expected placed = .ok n := by
  rw [tomlNat, h]
  exact if_pos (Int.natCast_nonneg n)

theorem tomlTheme_of_value {mode : ThemeMode} (h : placed.value = .string mode.name) :
    tomlTheme placed = .ok mode := by
  rw [tomlTheme, h]
  cases mode <;> rfl

/-- A number that is read can be written again. -/
theorem tomlNat_le (hfits : Fits placed.value) (h : tomlNat expected placed = .ok n) : n ≤ maxInteger := by
  unfold tomlNat at h
  split at h
  next z hvalue =>
    split at h
    next hnonneg =>
      have hz := hfits z hvalue
      obtain rfl := Except.ok.inj h
      omega
    next => cases h
  next => cases h

/-! ## 2. Fields -/

/-- A field with another key is what it was. -/
structure OthersKept (name : Text) (given given' : GivenSettings) : Prop where
  presetsDirectory : name ≠ "presets_dir" → given'.presetsDirectory = given.presetsDirectory
  dataDirectory : name ≠ "data_dir" → given'.dataDirectory = given.dataDirectory
  defaultPreset : name ≠ "default_preset" → given'.defaultPreset = given.defaultPreset
  theme : name ≠ "theme" → given'.theme = given.theme
  lightTheme : name ≠ "light_theme" → given'.lightTheme = given.lightTheme
  darkTheme : name ≠ "dark_theme" → given'.darkTheme = given.darkTheme
  referenceCollapsed : name ≠ "reference_collapsed" → given'.referenceCollapsed = given.referenceCollapsed
  autosaveMillis : name ≠ "autosave_ms" → given'.autosaveMillis = given.autosaveMillis
  tabWidth : name ≠ "tab_width" → given'.tabWidth = given.tabWidth

/-- A text that is compared as a string is the characters of the string. -/
theorem eq_toList_of_ofList {s : String} (h : String.ofList name = s) : name = s.toList := by
  rw [← h, String.toList_ofList]

/-- **A member changes the field with its key only.** -/
theorem othersKept_of_setTomlField (h : given.setTomlField name placed = .ok given') :
    OthersKept name given given' := by
  unfold setTomlField at h
  split at h
  -- the last case is the name of no field
  case h_10 =>
    obtain rfl := Except.ok.inj h
    constructor <;> exact fun _ => rfl
  all_goals
    rename_i hname
    obtain rfl := eq_toList_of_ofList hname
    obtain ⟨_, -, h⟩ := Json.exists_of_bind_ok h
    obtain rfl := Except.ok.inj h
    constructor <;> intro hne
    all_goals first
      | rfl
      | exact absurd rfl hne

/-- A field of the settings: its key in the file, the value that it has there, and its place among the
given settings. -/
structure Field (α : Type) where
  key : Text
  read : Placed Toml → Except Problem α
  write : α → Toml
  get : GivenSettings → Option α
  set : GivenSettings → α → GivenSettings
  bare : Bare key := by decide
  read_write : ∀ {placed x}, placed.value = write x → read placed = .ok x
  get_nothing : get nothing = none := by rfl
  get_set : ∀ given x, get (set given x) = some x := by exact fun _ _ => rfl
  /-- The member with the key is read, and sets the field. -/
  hit : ∀ given placed, given.setTomlField key placed = (do
    let x ← read placed
    .ok (set given x)) := by exact fun _ _ => rfl
  /-- A member with another key leaves the field. -/
  miss : ∀ {given name given'}, OthersKept name given given' → name ≠ key → get given' = get given

namespace Field

def presetsDirectory : Field Path where
  key := "presets_dir"
  read := tomlText "path string"
  write := .string
  get := GivenSettings.presetsDirectory
  set given x := { given with presetsDirectory := some x }
  read_write := tomlText_of_value _
  miss h := h.presetsDirectory

def dataDirectory : Field Path where
  key := "data_dir"
  read := tomlText "path string"
  write := .string
  get := GivenSettings.dataDirectory
  set given x := { given with dataDirectory := some x }
  read_write := tomlText_of_value _
  miss h := h.dataDirectory

def defaultPreset : Field Text where
  key := "default_preset"
  read := tomlText "a string"
  write := .string
  get := GivenSettings.defaultPreset
  set given x := { given with defaultPreset := some x }
  read_write := tomlText_of_value _
  miss h := h.defaultPreset

def theme : Field ThemeMode where
  key := "theme"
  read := tomlTheme
  write mode := .string mode.name
  get := GivenSettings.theme
  set given x := { given with theme := some x }
  read_write := tomlTheme_of_value
  miss h := h.theme

def lightTheme : Field Text where
  key := "light_theme"
  read := tomlText "a string"
  write := .string
  get := GivenSettings.lightTheme
  set given x := { given with lightTheme := some x }
  read_write := tomlText_of_value _
  miss h := h.lightTheme

def darkTheme : Field Text where
  key := "dark_theme"
  read := tomlText "a string"
  write := .string
  get := GivenSettings.darkTheme
  set given x := { given with darkTheme := some x }
  read_write := tomlText_of_value _
  miss h := h.darkTheme

def referenceCollapsed : Field Bool where
  key := "reference_collapsed"
  read := tomlBoolean
  write := .boolean
  get := GivenSettings.referenceCollapsed
  set given x := { given with referenceCollapsed := some x }
  read_write := tomlBoolean_of_value
  miss h := h.referenceCollapsed

def autosaveMillis : Field Nat where
  key := "autosave_ms"
  read := tomlNat "u64"
  write n := .integer n
  get := GivenSettings.autosaveMillis
  set given x := { given with autosaveMillis := some x }
  read_write := tomlNat_of_value _
  miss h := h.autosaveMillis

def tabWidth : Field Nat where
  key := "tab_width"
  read := tomlNat "usize"
  write n := .integer n
  get := GivenSettings.tabWidth
  set given x := { given with tabWidth := some x }
  read_write := tomlNat_of_value _
  miss h := h.tabWidth

/-! ## 3. Reading -/

variable {field : Field α} {fallback value : Option α}

/-- The value is what the member with the key of the field says, or else the fallback. -/
def Taken (field : Field α) (members : Members) (fallback value : Option α) : Prop :=
  match Dictionary.get? members field.key with
  | some placed => ∃ x, field.read placed = .ok x ∧ value = some x
  | none => value = fallback

/-- **The members fill the field**, by induction on them: the one with the key sets it, and
since the key comes once, no other one changes it afterwards. -/
theorem taken_of_foldlM (hkeys : (Dictionary.keys members).Nodup)
    (h : members.foldlM (fun given member => given.setTomlField member.1 member.2) start = .ok given) :
    field.Taken members (field.get start) (field.get given) := by
  induction members generalizing start with
  | nil =>
    obtain rfl := Except.ok.inj h
    rfl
  | cons member members ih =>
    obtain ⟨name, placed⟩ := member
    rw [Dictionary.keys_cons, List.nodup_cons] at hkeys
    rw [List.foldlM_cons] at h
    obtain ⟨between, hset, h⟩ := Json.exists_of_bind_ok h
    have hrest := ih hkeys.2 h
    unfold Taken at hrest ⊢
    rw [Dictionary.get?_cons]
    by_cases hname : name = field.key
    -- this member sets the field, and none behind it has its key
    · subst hname
      rw [Dictionary.get?_eq_none_iff.2 hkeys.1] at hrest
      rw [if_pos rfl]
      rw [field.hit] at hset
      obtain ⟨x, hread, hset⟩ := Json.exists_of_bind_ok hset
      obtain rfl := Except.ok.inj hset
      exact ⟨x, hread, hrest.trans (field.get_set start x)⟩
    -- a member with another key leaves the field
    · rw [field.miss (othersKept_of_setTomlField hset) hname] at hrest
      rw [if_neg hname]
      exact hrest

/-- What is read from members holds in each field what the member with its key says. -/
theorem taken_of_ofMembers (field : Field α) (hkeys : (Dictionary.keys members).Nodup)
    (h : ofMembers members = .ok given) : field.Taken members none (field.get given) :=
  field.get_nothing ▸ taken_of_foldlM hkeys h

/-- A field that the members leave open is filled with what it is given. -/
theorem Taken.or (h : field.Taken members none value) (fallback : Option α) :
    field.Taken members fallback (value.or fallback) := by
  unfold Taken at h ⊢
  cases hmember : Dictionary.get? members field.key with
  | none =>
    rw [hmember] at h
    obtain rfl := h
    rfl
  | some placed =>
    rw [hmember] at h
    obtain ⟨x, hread, rfl⟩ := h
    exact ⟨x, hread, rfl⟩

theorem Taken.getD {value : Option α} (h : field.Taken members none value) (fallback : α) :
    field.Taken members (some fallback) (some (value.getD fallback)) := by
  rw [← Option.or_some]
  exact h.or (some fallback)

end Field

/-- The settings have the values of the members, and the defaults where there is no member. -/
structure FromFile (members : Members) (defaults settings : Settings) : Prop where
  presetsDirectory : Field.presetsDirectory.Taken members defaults.presetsDirectory settings.presetsDirectory
  dataDirectory : Field.dataDirectory.Taken members defaults.dataDirectory settings.dataDirectory
  defaultPreset : Field.defaultPreset.Taken members defaults.defaultPreset settings.defaultPreset
  theme : Field.theme.Taken members (some defaults.theme) (some settings.theme)
  lightTheme : Field.lightTheme.Taken members (some defaults.lightTheme) (some settings.lightTheme)
  darkTheme : Field.darkTheme.Taken members (some defaults.darkTheme) (some settings.darkTheme)
  referenceCollapsed :
    Field.referenceCollapsed.Taken members (some defaults.referenceCollapsed)
      (some settings.referenceCollapsed)
  autosaveMillis :
    Field.autosaveMillis.Taken members (some defaults.autosaveMillis) (some settings.autosaveMillis)
  tabWidth : Field.tabWidth.Taken members (some defaults.tabWidth) (some settings.tabWidth)

/-- Settings that are read from members have their values, and defaults for those that they
lack. -/
theorem fromFile_of_ofMembers {defaults : Settings} (hdefault : defaults.defaultPreset = none)
    (hkeys : (Dictionary.keys members).Nodup) (h : ofMembers members = .ok given) :
    FromFile members defaults (given.complete defaults) where
  presetsDirectory := (Field.presetsDirectory.taken_of_ofMembers hkeys h).or _
  dataDirectory := (Field.dataDirectory.taken_of_ofMembers hkeys h).or _
  defaultPreset := hdefault ▸ Field.defaultPreset.taken_of_ofMembers hkeys h
  theme := (Field.theme.taken_of_ofMembers hkeys h).getD _
  lightTheme := (Field.lightTheme.taken_of_ofMembers hkeys h).getD _
  darkTheme := (Field.darkTheme.taken_of_ofMembers hkeys h).getD _
  referenceCollapsed := (Field.referenceCollapsed.taken_of_ofMembers hkeys h).getD _
  autosaveMillis := (Field.autosaveMillis.taken_of_ofMembers hkeys h).getD _
  tabWidth := (Field.tabWidth.taken_of_ofMembers hkeys h).getD _

/-- A number that is taken from sound members fits the integers of a file, if its default
does. -/
theorem Field.Taken.le {field : Field Nat} {fallback value : Nat} (hsound : Toml.Sound members)
    (hread : ∀ {placed n}, Fits placed.value → field.read placed = .ok n → n ≤ maxInteger)
    (h : field.Taken members (some fallback) (some value)) (hfallback : fallback ≤ maxInteger) :
    value ≤ maxInteger := by
  unfold Taken at h
  cases hmember : Dictionary.get? members field.key with
  | none =>
    rw [hmember] at h
    rw [Option.some.inj h]
    exact hfallback
  | some placed =>
    rw [hmember] at h
    obtain ⟨x, hx, hvalue⟩ := h
    rw [Option.some.inj hvalue]
    exact hread (hsound.2 _ (Dictionary.mem_of_get?_eq_some hmember)) hx

/-- **What a text gives**: its values, and defaults for the rest. It can be written again. -/
theorem fromFile_of_ofText {defaults : Settings} (hdefault : defaults.defaultPreset = none)
    (hdefaults : defaults.Storable) (h : ofText source = .ok given) :
    ∃ members, Toml.parse source = .ok members ∧ FromFile members defaults (given.complete defaults) ∧
      (given.complete defaults).Storable := by
  obtain ⟨members, hparse, h⟩ := Json.exists_of_bind_ok h
  have hparse := Toml.mapError_eq_ok.1 hparse
  have hsound := Toml.sound_of_parse hparse
  have hfile := fromFile_of_ofMembers hdefault hsound.1 h
  exact ⟨members, hparse, hfile, hfile.autosaveMillis.le hsound tomlNat_le hdefaults.autosaveMillis,
    hfile.tabWidth.le hsound tomlNat_le hdefaults.tabWidth⟩

/-! ## 4. Writing -/

/-- A member with the key and the value is read, however it is placed. -/
def Accepted (entry : Text × Toml) : Prop :=
  ∀ {placed : Placed Toml}, placed.value = entry.2 →
    ∀ given : GivenSettings, ∃ given', given.setTomlField entry.1 placed = .ok given'

namespace Field

/-- The key and the value of the field in a file, if it is given. -/
def entry (field : Field α) (given : GivenSettings) : List (Text × Toml) :=
  ((field.get given).map fun x => (field.key, field.write x)).toList

theorem accepted_entry {field : Field α} {entry : Text × Toml} (h : entry ∈ field.entry given) :
    Accepted entry := by
  intro placed hvalue given'
  obtain ⟨x, -, rfl⟩ := Option.map_eq_some_iff.1 (Option.mem_toList.1 h)
  exact ⟨field.set given' x, by rw [field.hit, field.read_write hvalue]; rfl⟩

/-- What is written for a field has its key or is nothing. -/
theorem keys_entry (field : Field α) (given : GivenSettings) :
    ((field.entry given).map Prod.fst).Sublist [field.key] := by
  unfold entry
  cases field.get given with
  | none => exact List.nil_sublist _
  | some x => exact List.Sublist.refl _

/-- A field has in the end what the members say for its key. -/
theorem get_of_saying (field : Field α) {value : Option α} (hkeys : (Dictionary.keys members).Nodup)
    (h : ofMembers members = .ok given)
    (hsaying : Dictionary.get? (members.map saying) field.key = value.map field.write) :
    field.get given = value := by
  have htaken := field.taken_of_ofMembers hkeys h
  have hmap : Dictionary.get? (members.map saying) field.key =
      (Dictionary.get? members field.key).map Placed.value := Dictionary.get?_map _ _ _
  rw [hmap] at hsaying
  unfold Taken at htaken
  -- what is not said is not set, and what is said reads back as what was written
  cases value with
  | none =>
    rw [Option.map_eq_none_iff.1 hsaying] at htaken
    exact htaken
  | some x =>
    obtain ⟨placed, hmember, hvalue⟩ := Option.map_eq_some_iff.1 hsaying
    rw [hmember] at htaken
    obtain ⟨y, hread, hget⟩ := htaken
    rw [field.read_write hvalue] at hread
    rw [hget, ← Except.ok.inj hread]

end Field

/-- The fields in the order of the file. -/
def fields : List (Σ α, Field α) :=
  [⟨_, .presetsDirectory⟩, ⟨_, .dataDirectory⟩, ⟨_, .defaultPreset⟩, ⟨_, .theme⟩, ⟨_, .lightTheme⟩,
    ⟨_, .darkTheme⟩, ⟨_, .referenceCollapsed⟩, ⟨_, .autosaveMillis⟩, ⟨_, .tabWidth⟩]

theorem nodup_fields : (fields.map fun field => field.2.key).Nodup := by decide

/-- Given settings as they stand in a file, field by field. -/
def entries (given : GivenSettings) : List (Text × Toml) := fields.flatMap fun field => field.2.entry given

theorem accepted_entries {entry : Text × Toml} (h : entry ∈ given.entries) : Accepted entry := by
  obtain ⟨field, -, hentry⟩ := List.mem_flatMap.1 h
  exact Field.accepted_entry hentry

/-- No key comes twice. -/
theorem nodup_entries (given : GivenSettings) : (Dictionary.keys given.entries).Nodup := by
  have hsublist : ∀ fields : List (Σ α, Field α),
      ((fields.flatMap fun field => field.2.entry given).map Prod.fst).Sublist
        (fields.map fun field => field.2.key) := by
    intro fields
    induction fields with
    | nil => exact List.Sublist.refl _
    | cons field fields ih =>
      rw [List.flatMap_cons, List.map_append]
      exact (field.2.keys_entry given).append ih
  exact (hsublist fields).nodup nodup_fields

/-- **A field is found by its key** among the entries. -/
theorem get?_entries {field : Field α} (h : ⟨α, field⟩ ∈ fields) (given : GivenSettings) :
    Dictionary.get? given.entries field.key = (field.get given).map field.write := by
  cases hget : field.get given with
  | some x =>
    have hmem : (field.key, field.write x) ∈ given.entries :=
      List.mem_flatMap.2 ⟨_, h, by simp [Field.entry, hget]⟩
    exact Dictionary.get?_eq_some_of_mem given.nodup_entries hmem
  | none =>
    refine Dictionary.get?_eq_none_iff.2 fun hkey => ?_
    obtain ⟨entry, hentry, hname⟩ := List.mem_map.1 hkey
    obtain ⟨⟨β, other⟩, hother, hentry⟩ := List.mem_flatMap.1 hentry
    obtain ⟨x, hx, rfl⟩ := Option.map_eq_some_iff.1 (Option.mem_toList.1 hentry)
    -- only the field itself has this key
    cases List.inj_on_of_nodup_map nodup_fields hother h hname
    rw [hget] at hx
    cases hx

/-- Members that are accepted one by one are read together. -/
theorem exists_foldlM (h : ∀ member ∈ members, Accepted (saying member)) (start : GivenSettings) :
    ∃ given,
      members.foldlM (fun given member => given.setTomlField member.1 member.2) start = .ok given := by
  induction members generalizing start with
  | nil => exact ⟨start, rfl⟩
  | cons member members ih =>
    obtain ⟨between, hset⟩ := h member List.mem_cons_self rfl start
    obtain ⟨given, hrest⟩ := ih (fun other hother => h other (List.mem_cons_of_mem _ hother)) between
    exact ⟨given, by rw [List.foldlM_cons]; exact hset ▸ hrest⟩

end GivenSettings

namespace Settings

variable {settings : Settings} {members : Members}

/-- The settings, where all is given. -/
def asGiven (settings : Settings) : GivenSettings where
  presetsDirectory := settings.presetsDirectory
  dataDirectory := settings.dataDirectory
  defaultPreset := settings.defaultPreset
  theme := some settings.theme
  lightTheme := some settings.lightTheme
  darkTheme := some settings.darkTheme
  referenceCollapsed := some settings.referenceCollapsed
  autosaveMillis := some settings.autosaveMillis
  tabWidth := some settings.tabWidth

open GivenSettings (Accepted fields)

/-- The line of a field. -/
def row {α : Type} (field : GivenSettings.Field α) (x : α) {t : Text} (h : Scalar t (field.write x)) : Row :=
  ⟨field.key, t, field.write x, field.bare, h⟩

/-- The lines of the settings. -/
def rows (settings : Settings) (h : settings.Storable) : List Row :=
  (settings.presetsDirectory.map fun t => row .presetsDirectory t (scalar_stringText t)).toList
    ++ (settings.dataDirectory.map fun t => row .dataDirectory t (scalar_stringText t)).toList
    ++ (settings.defaultPreset.map fun t => row .defaultPreset t (scalar_stringText t)).toList
    ++ [row .theme settings.theme (scalar_stringText _),
        row .lightTheme settings.lightTheme (scalar_stringText _),
        row .darkTheme settings.darkTheme (scalar_stringText _),
        row .referenceCollapsed settings.referenceCollapsed (scalar_booleanText _),
        row .autosaveMillis settings.autosaveMillis (scalar_integerText? (if_pos h.autosaveMillis)),
        row .tabWidth settings.tabWidth (scalar_integerText? (if_pos h.tabWidth))]

/-- The text of settings is a document with one line for each of their rows. -/
theorem toText?_eq_document (h : settings.Storable) :
    settings.toText? = some (document (settings.rows h)) := by
  have hautosave : Toml.integerText? settings.autosaveMillis = _ := if_pos h.autosaveMillis
  have htabWidth : Toml.integerText? settings.tabWidth = _ := if_pos h.tabWidth
  unfold toText?
  rw [hautosave, htabWidth]
  unfold rows
  cases settings.presetsDirectory <;> cases settings.dataDirectory <;> cases settings.defaultPreset
  all_goals
    simp only [document, Option.map_some, Option.map_none, Option.toList_some, Option.toList_none,
      List.nil_append, List.cons_append, List.flatMap_cons, List.flatMap_nil, List.append_assoc,
      List.append_nil]
    rfl

/-- The rows of settings say what is written for their fields. -/
theorem map_rows (h : settings.Storable) :
    (settings.rows h).map (fun row => (row.key, row.value)) = settings.asGiven.entries := by
  unfold rows GivenSettings.entries GivenSettings.Field.entry asGiven
  cases settings.presetsDirectory <;> cases settings.dataDirectory <;> cases settings.defaultPreset
  all_goals rfl

/-- What is read from members that say the settings: these. Each field is settled by the
member with its key, and the settings are their fields. -/
theorem ofMembers_of_saying (h : members.map saying = settings.asGiven.entries) :
    GivenSettings.ofMembers members = .ok settings.asGiven := by
  have hkeys : (Dictionary.keys members).Nodup := by
    have hnodup := settings.asGiven.nodup_entries
    rw [← h, Dictionary.keys, List.map_map] at hnodup
    exact hnodup
  have haccepted : ∀ member ∈ members, Accepted (saying member) := fun member hmember =>
    GivenSettings.accepted_entries (h ▸ List.mem_map_of_mem hmember)
  obtain ⟨given, hread⟩ := GivenSettings.exists_foldlM haccepted .nothing
  have hfield : ∀ {α : Type} (field : GivenSettings.Field α), ⟨α, field⟩ ∈ fields →
      field.get given = field.get settings.asGiven :=
    fun field hmem => field.get_of_saying hkeys hread (h ▸ GivenSettings.get?_entries hmem _)
  -- no field is missing from the list, so the fields together are the whole
  have hgiven : given = settings.asGiven := by
    apply GivenSettings.ext
    · exact hfield .presetsDirectory (by simp [fields])
    · exact hfield .dataDirectory (by simp [fields])
    · exact hfield .defaultPreset (by simp [fields])
    · exact hfield .theme (by simp [fields])
    · exact hfield .lightTheme (by simp [fields])
    · exact hfield .darkTheme (by simp [fields])
    · exact hfield .referenceCollapsed (by simp [fields])
    · exact hfield .autosaveMillis (by simp [fields])
    · exact hfield .tabWidth (by simp [fields])
  rw [← hgiven]
  exact hread

/-- **Settings that were written are read.** -/
theorem ofText_toText? {t : Text} (h : settings.Storable) (ht : settings.toText? = some t) :
    GivenSettings.ofText t = .ok settings.asGiven := by
  rw [toText?_eq_document h] at ht
  obtain rfl := Option.some.inj ht
  have hkeys : ((settings.rows h).map Row.key).Nodup := by
    have hnodup := settings.asGiven.nodup_entries
    rw [← map_rows h, Dictionary.keys, List.map_map] at hnodup
    exact hnodup
  obtain ⟨members, hparse, hsaying⟩ := Toml.parse_document hkeys
  have hmembers := ofMembers_of_saying (hsaying.trans (map_rows h))
  rw [GivenSettings.ofText, hparse]
  exact hmembers

end Settings

end MarkupDesk
