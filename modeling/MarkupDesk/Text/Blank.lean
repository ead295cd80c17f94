/-
`Text/Blank.lean` -- white space, and cutting it off.

"White space" is the Unicode property `White_Space` everywhere in this library:
in block separators, in the trimming of titles, names and marker contents, and in
commands. It is wider than the blanks of ASCII and does not contain the
zero-width space U+200B.
-/
import MarkupDesk.Text.Basic

set_option autoImplicit false

namespace MarkupDesk.Text

/-- The Unicode property `White_Space`. -/
def isBlank (c : Char) : Bool :=
  let n := c.toNat
  (0x09 ≤ n && n ≤ 0x0D) || n == 0x20 || n == 0x85 || n == 0xA0 || n == 0x1680
    || (0x2000 ≤ n && n ≤ 0x200A) || n == 0x2028 || n == 0x2029 || n == 0x202F
    || n == 0x205F || n == 0x3000

/-- The text from its first character that is not white space. -/
def trimStart (t : Text) : Text := t.dropWhile isBlank

/-- The text up to its last character that is not white space. -/
def trimEnd (t : Text) : Text := t.dropEndWhile isBlank

/-- The text without the white space at both ends. -/
def trim (t : Text) : Text := trimEnd (trimStart t)

@[simp] theorem trim_nil : trim [] = [] := rfl

end MarkupDesk.Text
