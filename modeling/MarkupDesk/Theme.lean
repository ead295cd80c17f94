/-
`Theme.lean` -- light and dark, and the palettes of the bundled themes.
-/
import MarkupDesk.Dictionary

set_option autoImplicit false

namespace MarkupDesk

/-- Light or dark. -/
inductive ThemeMode where
  | light
  | dark
  deriving DecidableEq, Repr

namespace ThemeMode

/-- The other mode. -/
def toggled : ThemeMode → ThemeMode
  | light => dark
  | dark => light

/-- The name of the mode. -/
def name : ThemeMode → Text
  | light => "light"
  | dark => "dark"

/-- The modes in the order in which messages list them. -/
def all : List ThemeMode := [light, dark]

/-- The mode with exactly this name. -/
def ofName? (name : Text) : Option ThemeMode := all.find? fun mode => mode.name = name

end ThemeMode

/-- A color by its red, green and blue parts. -/
structure Color where
  red : Nat
  green : Nat
  blue : Nat
  deriving DecidableEq, Repr

/-- The colors of a theme that the screen uses. Borders have the muted color. -/
structure Palette where
  foreground : Color
  background : Color
  accent : Color
  muted : Color
  deriving DecidableEq, Repr

namespace Palette

/-- A palette from colors written as `0xRRGGBB`. -/
def ofCodes (foreground background accent muted : Nat) : Palette :=
  let color (n : Nat) : Color := ⟨n / 0x10000 % 0x100, n / 0x100 % 0x100, n % 0x100⟩
  ⟨color foreground, color background, color accent, color muted⟩

/-- The color of borders. -/
def border (palette : Palette) : Color := palette.muted

/-- The palette of a name that no theme has: that of the first theme by name. -/
def fallback : Palette := ofCodes 0x323232 0xFFFFFF 0x323232 0xB3B3B3

/-- The bundled themes, by name. -/
def bundled : Dictionary Text Palette :=
  [("InspiredGitHub", fallback),
    ("Solarized (dark)", ofCodes 0x839496 0x002B36 0xEEE8D5 0x839496),
    ("Solarized (light)", ofCodes 0x657B83 0xFDF6E3 0x073642 0x657B83),
    ("base16-eighties.dark", ofCodes 0xD3D0C8 0x2D2D2D 0xD3D0C8 0xD3D0C8),
    ("base16-mocha.dark", ofCodes 0xD0C8C6 0x3B3228 0xD0C8C6 0xD0C8C6),
    ("base16-ocean.dark", ofCodes 0xC0C5CE 0x2B303B 0xC0C5CE 0xC0C5CE),
    ("base16-ocean.light", ofCodes 0x4F5B66 0xEFF1F5 0x4F5B66 0x4F5B66)]

/-- Is there a theme with this name? -/
def isKnown (name : Text) : Bool := (Dictionary.get? bundled name).isSome

/-- The palette of a theme. -/
def ofTheme (name : Text) : Palette := (Dictionary.get? bundled name).getD fallback

end Palette

end MarkupDesk
