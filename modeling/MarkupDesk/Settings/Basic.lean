/-
`Settings/Basic.lean` -- the settings of the program.

Settings are complete: every field has a value, or is one that may stay empty. What a
file gives is `GivenSettings`, where every field may be missing; `complete` fills the
gaps with defaults and tells whether there were any that the file should have filled.
-/
import MarkupDesk.Theme
import MarkupDesk.Session

set_option autoImplicit false

namespace MarkupDesk

/-- The name of the program, and of its directories. -/
def programName : Text := "pagesmith"

/-- The settings of the program. -/
structure Settings where
  presetsDirectory : Option Path
  dataDirectory : Option Path
  defaultPreset : Option Text
  theme : ThemeMode
  lightTheme : Text
  darkTheme : Text
  referenceCollapsed : Bool
  autosaveMillis : Nat
  tabWidth : Nat
  deriving DecidableEq, Repr

namespace Settings

/-- The settings where nothing is given, for the directories of a session. -/
def standard (configHome dataHome : Path) : Settings where
  presetsDirectory := some (Path.join (Path.join configHome programName) "presets")
  dataDirectory := some (Path.join dataHome programName)
  defaultPreset := none
  theme := .light
  lightTheme := "InspiredGitHub"
  darkTheme := "base16-ocean.dark"
  referenceCollapsed := false
  autosaveMillis := 400
  tabWidth := 4

/-- The settings where nothing is given, in a session. -/
def standardOf (s : Session) : Settings := standard s.configHome s.dataHome

/-- The directory of the drafts; without a directory for data, one in the working
directory. -/
def draftRoot (settings : Settings) : Path :=
  settings.dataDirectory.getD ('.' :: programName)

/-- The name of the theme in use. -/
def themeName (settings : Settings) : Text :=
  match settings.theme with
  | .light => settings.lightTheme
  | .dark => settings.darkTheme

/-- The file that takes the log while the editor has the screen. -/
def logPath (settings : Settings) : Path :=
  Path.join settings.draftRoot (programName ++ ".log")

end Settings

/-- Settings as far as they are given. -/
structure GivenSettings where
  presetsDirectory : Option Path
  dataDirectory : Option Path
  defaultPreset : Option Text
  theme : Option ThemeMode
  lightTheme : Option Text
  darkTheme : Option Text
  referenceCollapsed : Option Bool
  autosaveMillis : Option Nat
  tabWidth : Option Nat
  deriving DecidableEq, Repr

namespace GivenSettings

/-- Nothing given. -/
def nothing : GivenSettings := ⟨none, none, none, none, none, none, none, none, none⟩

/-- Is every field given that has a default? -/
def isFull (given : GivenSettings) : Bool :=
  given.presetsDirectory.isSome && given.dataDirectory.isSome && given.theme.isSome
    && given.lightTheme.isSome && given.darkTheme.isSome && given.referenceCollapsed.isSome
    && given.autosaveMillis.isSome && given.tabWidth.isSome

/-- The given settings with the gaps filled. -/
def complete (given : GivenSettings) (defaults : Settings) : Settings where
  presetsDirectory := given.presetsDirectory.or defaults.presetsDirectory
  dataDirectory := given.dataDirectory.or defaults.dataDirectory
  defaultPreset := given.defaultPreset
  theme := given.theme.getD defaults.theme
  lightTheme := given.lightTheme.getD defaults.lightTheme
  darkTheme := given.darkTheme.getD defaults.darkTheme
  referenceCollapsed := given.referenceCollapsed.getD defaults.referenceCollapsed
  autosaveMillis := given.autosaveMillis.getD defaults.autosaveMillis
  tabWidth := given.tabWidth.getD defaults.tabWidth

end GivenSettings

end MarkupDesk
