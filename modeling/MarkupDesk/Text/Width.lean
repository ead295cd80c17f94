/-
`Text/Width.lean` -- columns on a terminal.

A character alone and a character in a line differ in one point: a control
character takes no column by itself, but counts as one column in the width of a
text; line feeds never count, nor does a carriage return before one.
-/
import MarkupDesk.Text.Ranges
import MarkupDesk.Text.WidthTable

set_option autoImplicit false

namespace MarkupDesk.Text

/-- Is the character a control, of ASCII or of the block behind it? -/
def isControl (c : Char) : Bool :=
  c.toNat < 0x20 || (0x7F ≤ c.toNat && c.toNat < 0xA0)

/-- The Khmer sign for "and so on", which is drawn as three letters. -/
def khmerBeyyal : Char := '\u17D8'

/-- The columns of a character by itself. -/
def charWidth (c : Char) : Nat :=
  if isControl c then 0
  else if c.toNat < 0x7F then 1
  else if inRanges zeroWidthRanges c then 0
  else if inRanges wideRanges c then 2
  else if c == khmerBeyyal then 3
  else 1

/-- The columns of characters each by itself. -/
def charWidths : Text → Nat
  | [] => 0
  | c :: rest => charWidth c + charWidths rest

/-- The columns of a text. -/
def width : Text → Nat
  | [] => 0
  | '\r' :: '\n' :: rest => width rest
  | '\n' :: rest => width rest
  | c :: rest => (if isControl c then 1 else charWidth c) + width rest

end MarkupDesk.Text
