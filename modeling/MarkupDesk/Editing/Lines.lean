/-
`Editing/Lines.lean` -- the lines of a buffer.

A line ends behind a line break, which belongs to it; behind the last break there
is always one more line, possibly empty. Line feed, carriage return, both in this
order, vertical tab, form feed, next line, and the line and paragraph separators
of Unicode are line breaks. The lines put together are the text again
(`flatten_lines`), so a place in the text is a line and a column and the other way
round.
-/
import MarkupDesk.Text.Basic

set_option autoImplicit false

namespace MarkupDesk.Editing

/-- Is the character a line break by itself? -/
def isLineBreak (c : Char) : Bool :=
  c == '\n' || c == '\r' || c == '\x0b' || c == '\x0c' || c == '\u0085' || c == '\u2028'
    || c == '\u2029'

/-- The lines of a text, each with its line break. -/
def lines : Text → List Text
  | [] => [[]]
  | '\r' :: '\n' :: rest => ['\r', '\n'] :: lines rest
  | c :: rest =>
    if isLineBreak c then [c] :: lines rest
    else
      match lines rest with
      | [] => [[c]]
      | line :: others => (c :: line) :: others

/-- A text has at least one line. -/
theorem lines_ne_nil (t : Text) : lines t ≠ [] := by
  fun_induction lines t <;> simp_all

/-- The lines put together are the text. -/
theorem flatten_lines (t : Text) : (lines t).flatten = t := by
  fun_induction lines t <;> simp_all

/-- The number of lines. -/
def lineCount (t : Text) : Nat := (lines t).length

/-- The line with the given number, if there is one. -/
def line? (t : Text) (n : Nat) : Option Text := (lines t)[n]?

/-- The place where a line begins. -/
def lineStart (t : Text) (n : Nat) : Nat := ((lines t).take n).flatten.length

/-- The length of a line without the line feed that it may end with; 0 behind the
last line. -/
def lineLength (t : Text) (n : Nat) : Nat :=
  match line? t n with
  | none => 0
  | some line => if line.getLast? = some '\n' then line.length - 1 else line.length

/-- The number of the line that holds the place, and the column of the place in it. A
place at the end of all lines is in the last one. -/
def locate : List Text → (place : Nat) → Nat × Nat
  | [], place => (0, place)
  | [_], place => (0, place)
  | line :: others, place =>
    if place < line.length then (0, place)
    else
      let (n, column) := locate others (place - line.length)
      (n + 1, column)

/-- The line and the column of a place; a place behind the end counts as the end. -/
def lineColumn (t : Text) (place : Nat) : Nat × Nat := locate (lines t) (min place t.length)

end MarkupDesk.Editing
