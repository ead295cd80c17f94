/-
`Editing/Caret.lean` -- the caret and how it moves.

A caret is a place in the buffer. Moving up and down goes through lines of different
lengths, so the caret also keeps the column it is meant to be in: a short line moves it
left, the next long one moves it back. Any other motion forgets that column. A caret
that is within the buffer stays within it whatever the motion.
-/
import MarkupDesk.Editing.Lines

set_option autoImplicit false

namespace MarkupDesk.Editing

/-- A place in a buffer, and the column that motions between lines aim at. -/
structure Caret where
  place : Nat
  column : Option Nat
  deriving DecidableEq, Repr

namespace Caret

/-- The caret at a place. -/
def ofPlace (place : Nat) : Caret := ⟨place, none⟩

instance : Inhabited Caret := ⟨ofPlace 0⟩

/-- The number of the line that the caret is in. -/
def line (t : Text) (caret : Caret) : Nat := (lineColumn t caret.place).1

/-- The column that the caret is in. -/
def currentColumn (t : Text) (caret : Caret) : Nat := (lineColumn t caret.place).2

/-! ## 1. Within the line -/

/-- One character back. -/
def left (caret : Caret) : Caret := ofPlace (caret.place - 1)

/-- One character forward. -/
def right (t : Text) (caret : Caret) : Caret :=
  ofPlace (if caret.place < t.length then caret.place + 1 else caret.place)

/-- The start of the line. -/
def home (t : Text) (caret : Caret) : Caret := ofPlace (lineStart t (caret.line t))

/-- The end of the line. -/
def lineEnd (t : Text) (caret : Caret) : Caret :=
  ofPlace (lineStart t (caret.line t) + lineLength t (caret.line t))

/-! ## 2. Between lines -/

/-- The given line, in the column that is aimed at or as near to it as the line is long. -/
def toLine (t : Text) (target : Nat) (caret : Caret) : Caret :=
  let column := caret.column.getD (caret.currentColumn t)
  ⟨lineStart t target + min column (lineLength t target), some column⟩

/-- One line up; the first line is not left. -/
def up (t : Text) (caret : Caret) : Caret :=
  if caret.line t = 0 then caret else caret.toLine t (caret.line t - 1)

/-- One line down; the last line is not left. -/
def down (t : Text) (caret : Caret) : Caret :=
  if lineCount t - 1 ≤ caret.line t then caret else caret.toLine t (caret.line t + 1)

/-- Up by a number of lines, as far as there are any. -/
def pageUp (t : Text) (rows : Nat) (caret : Caret) : Caret :=
  caret.toLine t (caret.line t - rows)

/-- Down by a number of lines, as far as there are any. -/
def pageDown (t : Text) (rows : Nat) (caret : Caret) : Caret :=
  caret.toLine t (min (caret.line t + rows) (lineCount t - 1))

end Caret

end MarkupDesk.Editing
