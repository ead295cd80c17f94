/-
`Screen/Wrap.lean` -- how many rows lines take when they are wrapped.

A word moves to the next row when it does not fit behind what the row holds
already. A word wider than a row is broken into full rows. The spaces behind a word
count for the column, not for the question whether the word fits.
-/
import MarkupDesk.Text.Width

set_option autoImplicit false

namespace MarkupDesk.Screen

/-- The words of a line, each with the space behind it. -/
def words : Text → List Text
  | [] => []
  | c :: rest =>
    if c = ' ' then [c] :: words rest
    else
      match words rest with
      | [] => [[c]]
      | word :: others => (c :: word) :: others

/-- A row and a column. -/
structure WrapState where
  rows : Nat
  column : Nat
  deriving DecidableEq, Repr

/-- Full rows of the column moved to the row count: the column that is left is within
the width. -/
def WrapState.breakFull (width : Nat) (s : WrapState) : WrapState :=
  let full := (s.column - 1) / width
  ⟨s.rows + full, s.column - full * width⟩

/-- One word more. -/
def WrapState.addWord (width : Nat) (s : WrapState) (word : Text) : WrapState :=
  let visible := Text.width (word.dropEndWhile (· == ' '))
  let start : WrapState :=
    if 0 < s.column ∧ width < s.column + visible then ⟨s.rows + 1, 0⟩ else s
  WrapState.breakFull width ⟨start.rows, start.column + Text.width word⟩

/-- The rows of one line at a width of at least one column. -/
def wrappedLineRows (width : Nat) (line : Text) : Nat :=
  ((words line).foldl (WrapState.addWord width) ⟨1, 0⟩).rows

/-- The rows of all lines at a width of at least one column. -/
def rowsWithin (width : Nat) : List Text → Nat
  | [] => 0
  | line :: lines => wrappedLineRows width line + rowsWithin width lines

/-- The rows of all lines; a width of zero counts as one column. -/
def wrappedRows (lines : List Text) (width : Nat) : Nat := rowsWithin (max width 1) lines

end MarkupDesk.Screen
