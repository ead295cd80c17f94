/-
`Toml/Printer.lean` -- writing keys with scalar values.

A string is written in the first form that shows it as it is: between double quotes,
between single quotes, and then the same over several lines. Only where none does, its
characters are escaped. In the forms between double quotes tabs are escaped always.
-/
import MarkupDesk.Text.Quoted
import MarkupDesk.Toml.Scalar

set_option autoImplicit false

namespace MarkupDesk.Toml

/-! ## 1. Forms of strings -/

/-- Does a string with this character need escapes? Tabs and line feeds do not. -/
def needsEscape (c : Char) : Bool :=
  (c.toNat < 0x20 && c != '\t' && c != '\n') || c.toNat == 0x7F

/-- The length of the longest run of a character. -/
def longestRun (quote : Char) (t : Text) : Nat :=
  (t.foldl (fun (longest, current) c =>
    if c = quote then (max longest (current + 1), current + 1) else (longest, 0)) (0, 0)).1

/-- A form of a string: the text around it, whether characters are escaped, and whether
it may run over several lines. -/
structure StringForm where
  delimiter : Text
  escapes : Bool
  overLines : Bool
  deriving DecidableEq, Repr

namespace StringForm

/-- Between double quotes. -/
def basic : StringForm := ⟨['"'], true, false⟩

/-- Between single quotes. -/
def literal : StringForm := ⟨['\''], false, false⟩

/-- Between three double quotes each. -/
def longBasic : StringForm := ⟨['"', '"', '"'], true, true⟩

/-- Between three single quotes each. -/
def longLiteral : StringForm := ⟨['\'', '\'', '\''], false, true⟩

/-- The form in which a string is written. -/
def ofText (t : Text) : StringForm :=
  let control := t.any needsEscape
  let backslash := t.contains '\\'
  let overLines := t.contains '\n'
  let doubles := longestRun '"' t
  let singles := longestRun '\'' t
  if !control && !backslash && !overLines && doubles == 0 then basic
  else if !control && !overLines && singles == 0 then literal
  else if !control && !backslash && doubles < 3 then longBasic
  else if !control && singles < 3 then longLiteral
  else if overLines then longBasic
  else basic

end StringForm

/-! ## 2. Writing -/

/-- The escape of a character, if it has to be escaped in every form. -/
def escapeOf? (c : Char) : Option Text :=
  if c = '\x08' then some ['\\', 'b']
  else if c = '\t' then some ['\\', 't']
  else if c = '\x0c' then some ['\\', 'f']
  else if c = '\r' then some ['\\', 'r']
  else if c = '\\' then some ['\\', '\\']
  else if needsEscape c then some ('\\' :: 'u' :: (Text.hexPadded 4 c.toNat).map Char.toUpper)
  else none

/-- The characters with their escapes. At most `free` double quotes stand in a row
unescaped, of which `quotes` came just before. -/
def escapeText (overLines : Bool) (free : Nat) : (quotes : Nat) → Text → Text
  | _, [] => []
  | quotes, c :: rest =>
    if c = '"' then
      if quotes < free then '"' :: escapeText overLines free (quotes + 1) rest
      else '\\' :: '"' :: escapeText overLines free 0 rest
    else if c = '\n' ∧ !overLines then '\\' :: 'n' :: escapeText overLines free 0 rest
    else
      match escapeOf? c with
      | some escape => escape ++ escapeText overLines free 0 rest
      | none => c :: escapeText overLines free 0 rest

/-- A string in a form. -/
def formatString (form : StringForm) (t : Text) : Text :=
  let inner :=
    if form.escapes then escapeText form.overLines (if form.overLines then 2 else 0) 0 t else t
  let lead : Text := if form.overLines && t.contains '\n' then ['\n'] else []
  form.delimiter ++ lead ++ inner ++ form.delimiter

/-- A string. -/
def stringText (t : Text) : Text := formatString (StringForm.ofText t) t

/-- A key by itself, where it needs no quotes, or else as a string on one line. -/
def keyText (key : Text) : Text :=
  if !key.isEmpty && key.all isKeyChar then key
  else
    let form := StringForm.ofText key
    formatString (if form = .literal then .literal else .basic) key

/-- The greatest integer that can be written. -/
def maxInteger : Nat := Number.pow2 63 - 1

/-- A number, unless it is too large. -/
def integerText? (n : Nat) : Option Text := if n ≤ maxInteger then some (Text.ofNat n) else none

/-- A truth value. -/
def booleanText (b : Bool) : Text := if b then "true" else "false"

/-- The line of a key and its value. -/
def line (key value : Text) : Text := key ++ " = " ++ value ++ ['\n']

end MarkupDesk.Toml
