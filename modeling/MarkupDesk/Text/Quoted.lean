/-
`Text/Quoted.lean` -- a text shown between quotes, for messages.

Quotes, backslashes and the common controls are shown by a backslash and a
letter, and every other character that would not show by itself as its number in
braces: what is not printable, and what would attach to the character before it.
-/
import MarkupDesk.Text.Ranges
import MarkupDesk.Text.PrintTable

set_option autoImplicit false

namespace MarkupDesk.Text

/-- Lower-case hexadecimal digits, without leading zeros. -/
def hex (n : Nat) : Text := Nat.toDigits 16 n

/-- Hexadecimal digits filled with zeros to at least `width`. -/
def hexPadded (width n : Nat) : Text :=
  let digits := hex n
  List.replicate (width - digits.length) '0' ++ digits

/-- How one character is shown. -/
def showChar (c : Char) : Text :=
  if c == '\x00' then ['\\', '0']
  else if c == '\t' then ['\\', 't']
  else if c == '\r' then ['\\', 'r']
  else if c == '\n' then ['\\', 'n']
  else if c == '"' then ['\\', '"']
  else if c == '\\' then ['\\', '\\']
  else if inRanges extenderRanges c || inRanges unprintableRanges c then
    ['\\', 'u', '{'] ++ hex c.toNat ++ ['}']
  else [c]

/-- The text between double quotes. -/
def quoted (t : Text) : Text := '"' :: t.flatMap showChar ++ ['"']

end MarkupDesk.Text
