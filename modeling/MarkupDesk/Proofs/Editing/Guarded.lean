/-
`Proofs/Editing/Guarded.lean` -- a buffer that refuses what is out of range.

The functions on a buffer are total: a place behind the end counts as the end, and a line that
there is not is empty. A buffer that stores its text in pieces has no such mercy: to insert
behind the end, to ask for the line of a place behind the end or for a line that there is not is
a fault. Here are the operations of such a buffer and the motions of the caret in terms of them.
Every motion is free of faults whatever the caret is (`up_eq` and so on), because the place of
the caret is cut at the end of the buffer before a line is looked up; an insertion and a removal
are free of faults where the caret is within the buffer (`insert_eq`, `remove_eq`).
-/
import MarkupDesk.Proofs.Editing.Lines

set_option autoImplicit false

namespace MarkupDesk.Editing

/-- An operation on a buffer that is out of its range. -/
inductive OutOfRange where
  | insertion (place : Nat)
  | removal (first last : Nat)
  | lineOf (place : Nat)
  | startOf (line : Nat)
  | line (number : Nat)
  | character (place : Nat)
  deriving DecidableEq, Repr

namespace Guarded

/-! ## 1. The buffer -/

/-- The text with another one put in at a place, which may be the end. -/
def insert (t : Text) (place : Nat) (added : Text) : Except OutOfRange Text :=
  if place ≤ t.length then .ok (t.take place ++ added ++ t.drop place)
  else .error (.insertion place)

/-- The text without the characters from one place to another. -/
def remove (t : Text) (first last : Nat) : Except OutOfRange Text :=
  if first ≤ last ∧ last ≤ t.length then .ok (t.take first ++ t.drop last)
  else .error (.removal first last)

/-- The number of the line of a place, which may be the end. -/
def lineOf (t : Text) (place : Nat) : Except OutOfRange Nat :=
  if place ≤ t.length then .ok (locate (lines t) place).1 else .error (.lineOf place)

/-- The place where a line starts; the one behind the last line starts at the end. -/
def startOf (t : Text) (line : Nat) : Except OutOfRange Nat :=
  if line ≤ lineCount t then .ok (lineStart t line) else .error (.startOf line)

/-- A line of the buffer. -/
def line (t : Text) (number : Nat) : Except OutOfRange Text :=
  match line? t number with
  | some line => .ok line
  | none => .error (.line number)

/-- A character of a text. -/
def character (t : Text) (place : Nat) : Except OutOfRange Char :=
  match t[place]? with
  | some c => .ok c
  | none => .error (.character place)

/-- Within the buffer an insertion is what the total function computes. The next two lemmas
say it of a removal and of the start of a line. -/
theorem insert_eq {t : Text} {place : Nat} (h : place ≤ t.length) (added : Text) :
    insert t place added = .ok (t.take place ++ added ++ t.drop place) := if_pos h

theorem remove_eq {t : Text} {first last : Nat} (h : first ≤ last) (hlast : last ≤ t.length) :
    remove t first last = .ok (t.take first ++ t.drop last) := if_pos ⟨h, hlast⟩

theorem startOf_eq {t : Text} {line : Nat} (h : line < lineCount t) :
    startOf t line = .ok (lineStart t line) := if_pos (Nat.le_of_lt h)

/-! ## 2. Lines and columns -/

/-- The length of a line without the line feed that it may end with; 0 behind the last line. -/
def lineLength (t : Text) (number : Nat) : Except OutOfRange Nat :=
  if lineCount t ≤ number then .ok 0
  else do
    let line ← line t number
    if line.length = 0 then return 0
    let last ← character line (line.length - 1)
    return if last = '\n' then line.length - 1 else line.length

/-- The line and the column of a place; a place behind the end counts as the end. -/
def lineColumn (t : Text) (place : Nat) : Except OutOfRange (Nat × Nat) := do
  let cut := min place t.length
  let line ← lineOf t cut
  let start ← startOf t line
  return (line, cut - start)

/-- The length of a line is free of faults for every number: behind the last line it is not
looked up at all, and the last character is only asked for where there is one. -/
theorem lineLength_eq (t : Text) (number : Nat) :
    lineLength t number = .ok (Editing.lineLength t number) := by
  unfold lineLength
  by_cases hbehind : lineCount t ≤ number
  · have hnone : line? t number = none := List.getElem?_eq_none hbehind
    rw [if_pos hbehind, Editing.lineLength, hnone]
  rw [if_neg hbehind]
  obtain ⟨found, hline⟩ : ∃ found, line? t number = some found :=
    ⟨_, List.getElem?_eq_getElem (Nat.lt_of_not_le hbehind)⟩
  have hfound : line t number = .ok found := by rw [line, hline]
  rw [hfound, Editing.lineLength, hline]
  show (if found.length = 0 then (.ok 0 : Except OutOfRange Nat) else _) = _
  -- an empty line has no last character, and is not asked for it
  by_cases hempty : found.length = 0
  · have hnil : found = [] := List.length_eq_zero_iff.1 hempty
    rw [if_pos hempty, hnil]
    rfl
  · obtain ⟨last, hlast⟩ : ∃ last, found[found.length - 1]? = some last :=
      ⟨_, List.getElem?_eq_getElem (by omega)⟩
    have hcharacter : character found (found.length - 1) = .ok last := by rw [character, hlast]
    rw [if_neg hempty, hcharacter]
    show Except.ok (if last = '\n' then _ else _) =
      Except.ok (if found.getLast? = some '\n' then _ else _)
    simp only [List.getLast?_eq_getElem?, hlast, Option.some.injEq]

/-- **A line is found for every place.** -/
theorem lineColumn_eq (t : Text) (place : Nat) :
    lineColumn t place = .ok (Editing.lineColumn t place) := by
  obtain ⟨hline, hcolumn⟩ := lineColumn_spec t place
  have hcut : lineOf t (min place t.length) = .ok (Editing.lineColumn t place).1 :=
    if_pos (Nat.min_le_right _ _)
  unfold lineColumn
  simp only [hcut]
  show ((startOf t (Editing.lineColumn t place).1).bind fun start =>
    .ok ((Editing.lineColumn t place).1, min place t.length - start)) = _
  rw [startOf_eq hline]
  -- the column is what is left of the place behind the start of its line
  have hrest : min place t.length - lineStart t (Editing.lineColumn t place).1 =
      (Editing.lineColumn t place).2 := by omega
  exact congrArg (fun column => Except.ok ((Editing.lineColumn t place).1, column)) hrest

/-! ## 3. Motions -/

/-- The given line, in the column that is aimed at or as near to it as the line is long. -/
def toLine (t : Text) (target column : Nat) (caret : Caret) : Except OutOfRange Caret := do
  let desired := caret.column.getD column
  let length ← lineLength t target
  let start ← startOf t target
  return ⟨start + min desired length, some desired⟩

/-- The start of the line. -/
def home (t : Text) (caret : Caret) : Except OutOfRange Caret := do
  let (line, _) ← lineColumn t caret.place
  return .ofPlace (← startOf t line)

/-- The end of the line. -/
def lineEnd (t : Text) (caret : Caret) : Except OutOfRange Caret := do
  let (line, _) ← lineColumn t caret.place
  let length ← lineLength t line
  return .ofPlace ((← startOf t line) + length)

/-- One line up; the first line is not left. -/
def up (t : Text) (caret : Caret) : Except OutOfRange Caret := do
  let (line, column) ← lineColumn t caret.place
  if line = 0 then return caret
  toLine t (line - 1) column caret

/-- One line down; the last line is not left. -/
def down (t : Text) (caret : Caret) : Except OutOfRange Caret := do
  let (line, column) ← lineColumn t caret.place
  if lineCount t - 1 ≤ line then return caret
  toLine t (line + 1) column caret

/-- Up by a number of lines, as far as there are any. -/
def pageUp (rows : Nat) (t : Text) (caret : Caret) : Except OutOfRange Caret := do
  let (line, column) ← lineColumn t caret.place
  toLine t (line - rows) column caret

/-- Down by a number of lines, as far as there are any. -/
def pageDown (rows : Nat) (t : Text) (caret : Caret) : Except OutOfRange Caret := do
  let (line, column) ← lineColumn t caret.place
  toLine t (min (line + rows) (lineCount t - 1)) column caret

/-- A motion to a line that there is. -/
theorem toLine_eq {t : Text} {target : Nat} (h : target < lineCount t) (caret : Caret) :
    toLine t target (caret.currentColumn t) caret = .ok (caret.toLine t target) := by
  unfold toLine
  rw [lineLength_eq, startOf_eq h]
  rfl

/-- What is done with the line of the caret is done with the line that is found for it. -/
theorem lineColumn_bind {α : Type} (t : Text) (caret : Caret)
    (rest : Nat × Nat → Except OutOfRange α) :
    (lineColumn t caret.place >>= rest) = rest (caret.line t, caret.currentColumn t) := by
  rw [lineColumn_eq]
  rfl

variable (rows : Nat) (t : Text) (caret : Caret)

/-- Every motion is free of faults, and lands where the total one does. The line that a motion
aims at is looked up before the caret moves, so each has to show that there is one. -/
theorem home_eq : home t caret = .ok (caret.home t) := by
  unfold home
  rw [lineColumn_bind]
  simp only [startOf_eq (caret.line_lt t)]
  rfl

theorem lineEnd_eq : lineEnd t caret = .ok (caret.lineEnd t) := by
  unfold lineEnd
  rw [lineColumn_bind]
  simp only [lineLength_eq, startOf_eq (caret.line_lt t)]
  rfl

theorem up_eq : up t caret = .ok (caret.up t) := by
  have hline := caret.line_lt t
  unfold up Caret.up
  rw [lineColumn_bind]
  by_cases hfirst : caret.line t = 0
  · simp only [if_pos hfirst]
    rfl
  · simp only [if_neg hfirst]
    exact toLine_eq (by omega) caret

theorem down_eq : down t caret = .ok (caret.down t) := by
  unfold down Caret.down
  rw [lineColumn_bind]
  by_cases hlast : lineCount t - 1 ≤ caret.line t
  · simp only [if_pos hlast]
    rfl
  · simp only [if_neg hlast]
    exact toLine_eq (by omega) caret

theorem pageUp_eq : pageUp rows t caret = .ok (caret.pageUp t rows) := by
  have hline := caret.line_lt t
  unfold pageUp
  rw [lineColumn_bind]
  exact toLine_eq (by omega) caret

theorem pageDown_eq : pageDown rows t caret = .ok (caret.pageDown t rows) := by
  have hline := caret.line_lt t
  unfold pageDown
  rw [lineColumn_bind]
  exact toLine_eq (by omega) caret

end Guarded

end MarkupDesk.Editing
