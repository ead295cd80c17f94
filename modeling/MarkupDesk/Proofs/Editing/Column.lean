/-
`Proofs/Editing/Column.lean` -- the column that motions between lines keep.

The caret remembers the column that it aims at, and a short line or a long one makes no
difference to it. What is remembered need not be there yet: at first there is only the column
that the caret is in, and a motion that finds no line to go to leaves it at that. `Aims` says
what both come to. Every motion keeps it (`LineMotion.aims`), so whole trips do
(`travel_aims`), whatever lines they go through.

All of this is about texts whose only line breaks are line feeds. With other breaks a motion
may go one line too far (`motion_lands`).
-/
import Mathlib.Algebra.Ring.Int.Defs
import MarkupDesk.Proofs.Editing.Motion

set_option autoImplicit false

namespace MarkupDesk.Editing

variable {t line : Text} {n column : Nat} {caret : Caret}

/-! ## 1. Line feeds only -/

/-- The only line breaks in the text are line feeds. -/
def FeedsOnly (t : Text) : Prop := ∀ c ∈ t, isLineBreak c = true → c = '\n'

instance (t : Text) : Decidable (FeedsOnly t) :=
  List.decidableBAll (fun c => isLineBreak c = true → c = '\n') t

/-- A line of such a text has a line feed at its end or no line break. -/
theorem FeedsOnly.ends (h : FeedsOnly t) (hline : line? t n = some line) :
    ∀ c ∈ line.getLast?, isLineBreak c = true → c = '\n' := by
  intro c hc
  have hmem : c ∈ (lines t).flatten :=
    List.mem_flatten_of_mem (List.mem_of_getElem? hline) (List.mem_of_getLast? hc)
  rw [flatten_lines] at hmem
  exact h c hmem

/-- Only the line feed of a line is behind its length, and the last line has none. -/
theorem FeedsOnly.length_eq (h : FeedsOnly t) (hline : line? t n = some line) :
    (n + 1 < lineCount t ∧ lineLength t n + 1 = line.length) ∨
      (n + 1 = lineCount t ∧ lineLength t n = line.length) := by
  have hn : n < lineCount t := (List.getElem?_eq_some_iff.1 hline).1
  by_cases hlast : n + 1 = lineCount t
  -- the last line has no break
  · have hopen : line.getLast? ≠ some '\n' := by
      intro hend
      have hnot := unbroken_of_last hline hlast '\n' (List.mem_of_getLast? hend)
      exact absurd hnot (by decide)
    right
    rw [lineLength_of_line hline, if_neg hopen]
    exact ⟨hlast, rfl⟩
  -- every other line has a break at its end, and this is a line feed
  · have hbroken : Broken line := broken_of_lt hline (by omega)
    have hpos := hbroken.length_pos
    obtain ⟨c, hc, hbreak⟩ := hbroken
    have hend : line.getLast? = some '\n' := by
      rw [← h.ends hline c hc hbreak]
      exact hc
    left
    rw [lineLength_of_line hline, if_pos hend]
    omega

/-! ## 2. The column of a place -/

/-- The column that is found for a place is in the line that is found for it. Behind the last
line there is no other one, so its end counts as well. -/
theorem locate_column {ls : List Text} {place : Nat} (h : place ≤ ls.flatten.length)
    (hline : ls[(locate ls place).1]? = some line) :
    (locate ls place).2 < line.length ∨
      (locate ls place).1 + 1 = ls.length ∧ (locate ls place).2 ≤ line.length := by
  induction ls generalizing place with
  | nil => simp at hline
  | cons first others ih =>
    -- the last line takes every place that is left, its own end included
    cases others with
    | nil =>
      obtain rfl : first = line := by simpa [locate] using hline
      right
      exact ⟨rfl, by simpa [locate] using h⟩
    | cons next others =>
      by_cases hin : place < first.length
      · simp only [locate, if_pos hin] at hline ⊢
        obtain rfl : first = line := by simpa using hline
        exact .inl hin
      · have hrest : place - first.length ≤ (next :: others).flatten.length := by
          rw [List.flatten_cons, List.length_append] at h
          omega
        simp only [locate, if_neg hin, List.getElem?_cons_succ] at hline ⊢
        have hfound := ih hrest hline
        rw [List.length_cons]
        omega

/-- In such a text the column of a place is one of its line, or the end of it. Behind another
line break this fails, for there the place is that of the next line. -/
theorem FeedsOnly.column_le (h : FeedsOnly t) (place : Nat) :
    (lineColumn t place).2 ≤ lineLength t (lineColumn t place).1 := by
  obtain ⟨line, hline⟩ := exists_line (lineColumn_spec t place).1
  have hplace : min place t.length ≤ (lines t).flatten.length := by
    rw [flatten_lines]
    exact Nat.min_le_right place t.length
  have hcolumn := locate_column hplace hline
  have hlength := h.length_eq hline
  rw [lineColumn] at hlength ⊢
  rw [lineCount] at hlength
  omega

/-- The place at a column that the line is long enough for. -/
theorem FeedsOnly.lineColumn_at (h : FeedsOnly t) (hn : n < lineCount t)
    (hcolumn : column ≤ lineLength t n) : lineColumn t (lineStart t n + column) = (n, column) := by
  obtain ⟨line, hline⟩ := exists_line hn
  have hlength := h.length_eq hline
  apply lineColumn_lineStart_add hline
  omega

/-! ## 3. What the caret aims at -/

/-- The caret is in the line and aims at the column: it is as near to it as the line is long, and
this is the column that it remembers, or, if it remembers none, the one that it is in. -/
structure Aims (t : Text) (n column : Nat) (caret : Caret) : Prop where
  line : n < lineCount t
  place : min caret.place t.length = lineStart t n + min column (lineLength t n)
  column : caret.column.getD (min column (lineLength t n)) = column

namespace Aims

/-- Where the caret is: in the line that it aims at, and in the column if the line reaches
that far. -/
theorem lineColumn_eq (h : Aims t n column caret) (hfeeds : FeedsOnly t) :
    lineColumn t caret.place = (n, min column (lineLength t n)) := by
  have hclamped : lineColumn t caret.place = lineColumn t (min caret.place t.length) := by
    rw [lineColumn, lineColumn, Nat.min_eq_left (Nat.min_le_right _ _)]
  rw [hclamped, h.place]
  exact hfeeds.lineColumn_at h.line (Nat.min_le_right _ _)

/-- The line of a caret is the one that it aims at. -/
theorem line_eq (h : Aims t n column caret) (hfeeds : FeedsOnly t) : caret.line t = n := by
  rw [Caret.line, h.lineColumn_eq hfeeds]

/-- The column that it aims at is the one that the next motion asks for, however far the line
reaches. -/
theorem aim_eq (h : Aims t n column caret) (hfeeds : FeedsOnly t) : caret.aim t = column := by
  rw [Caret.aim, Caret.currentColumn, h.lineColumn_eq hfeeds]
  exact h.column

/-- A caret that remembers no column aims at the one that it is in. -/
theorem start (hfeeds : FeedsOnly t) (hcolumn : caret.column = none) :
    Aims t (caret.line t) (caret.currentColumn t) caret := by
  obtain ⟨hline, hplace⟩ := lineColumn_spec t caret.place
  have hle : caret.currentColumn t ≤ lineLength t (caret.line t) := hfeeds.column_le caret.place
  refine ⟨hline, ?_, ?_⟩
  · rw [Nat.min_eq_left hle]
    exact hplace.symm
  · rw [Nat.min_eq_left hle, hcolumn]
    rfl

/-- A motion to another line aims at the same column there. -/
theorem toLine (h : Aims t n column caret) (hfeeds : FeedsOnly t) {target : Nat}
    (htarget : target < lineCount t) : Aims t target column (caret.toLine t target) := by
  have haim : caret.column.getD (caret.currentColumn t) = column := h.aim_eq hfeeds
  refine ⟨htarget, ?_, ?_⟩
  · rw [Nat.min_eq_left (Caret.place_toLine_le t target caret)]
    show lineStart t target + min (caret.column.getD (caret.currentColumn t)) _ = _
    rw [haim]
  · exact haim

end Aims

/-! ## 4. Trips -/

/-- A motion between lines. -/
inductive LineMotion where
  | up
  | down
  | pageUp
  | pageDown
  deriving DecidableEq, Repr

namespace LineMotion

/-- The motion where a page is `rows` rows high. -/
def run (t : Text) (rows : Nat) : LineMotion → Caret → Caret
  | .up => .up t
  | .down => .down t
  | .pageUp => .pageUp t rows
  | .pageDown => .pageDown t rows

/-- The number of lines that the motion is meant to go down; it is negative for a motion up. -/
def shift (rows : Nat) : LineMotion → Int
  | .up => -1
  | .down => 1
  | .pageUp => -rows
  | .pageDown => rows

end LineMotion

/-- The number of the line that is so many lines down from line `n`, or the first or the last
line where there are not so many. -/
def clampedLine (last n : Nat) (shift : Int) : Nat := (min (max 0 (n + shift)) last).toNat

/-- How far the motions of a trip are meant to go down, one after the other. With each motion
comes the height of a page at the time. -/
def shifts (trip : List (LineMotion × Nat)) : List Int := trip.map fun step => step.1.shift step.2

/-- The line behind a trip from line `n`, on which every motion goes as far as there are lines. -/
def lineBehind (last n : Nat) (trip : List (LineMotion × Nat)) : Nat :=
  (shifts trip).foldl (clampedLine last) n

/-- No motion of the trip from line `n` is meant to go beyond the first or the last line. -/
def Clear (last n : Nat) (trip : List (LineMotion × Nat)) : Prop :=
  ∀ k ≤ trip.length,
    0 ≤ n + ((shifts trip).take k).sum ∧ n + ((shifts trip).take k).sum ≤ (last : Int)

instance (last n : Nat) (trip : List (LineMotion × Nat)) : Decidable (Clear last n trip) :=
  inferInstanceAs (Decidable (∀ k ≤ trip.length, _))

/-- Where nothing is in the way, the lines down and up add up. -/
theorem lineBehind_of_clear {last n : Nat} {trip : List (LineMotion × Nat)}
    (h : Clear last n trip) : (lineBehind last n trip : Int) = n + (shifts trip).sum := by
  induction trip generalizing n with
  | nil =>
    show (n : Int) = n + 0
    omega
  | cons step trip ih =>
    have hshifts : shifts (step :: trip) = step.1.shift step.2 :: shifts trip := rfl
    have hfirst := h 1 (by simp)
    rw [hshifts, List.take_succ_cons, List.take_zero, List.sum_singleton] at hfirst
    -- the step meets neither end of the text, so it is not clamped
    have hmoved : (clampedLine last n (step.1.shift step.2) : Int) = n + step.1.shift step.2 := by
      rw [clampedLine]
      omega
    have hclear : Clear last (clampedLine last n (step.1.shift step.2)) trip := by
      intro k hk
      have hnext := h (k + 1) (by simpa using hk)
      rw [hshifts, List.take_succ_cons, List.sum_cons] at hnext
      rw [hmoved]
      omega
    have hrest := ih hclear
    rw [hmoved] at hrest
    rw [hshifts, List.sum_cons]
    show (lineBehind last (clampedLine last n (step.1.shift step.2)) trip : Int) = _
    omega

/-- **One motion** goes to the line it is for and keeps the column. -/
theorem LineMotion.aims (motion : LineMotion) (h : Aims t n column caret) (hfeeds : FeedsOnly t)
    (rows : Nat) :
    Aims t (clampedLine (lineCount t - 1) n (motion.shift rows)) column
      (motion.run t rows caret) := by
  have hline := h.line_eq hfeeds
  have hn := h.line
  -- at the first or the last line the caret is left alone, and nothing is remembered
  cases motion with
  | up =>
    by_cases hfirst : n = 0
    · have hstays : clampedLine (lineCount t - 1) n (LineMotion.up.shift rows) = n := by
        simp only [clampedLine, shift]
        omega
      rw [hstays, run, Caret.up, hline, if_pos hfirst]
      exact h
    · have hmoves : clampedLine (lineCount t - 1) n (LineMotion.up.shift rows) = n - 1 := by
        simp only [clampedLine, shift]
        omega
      rw [hmoves, run, Caret.up, hline, if_neg hfirst]
      exact h.toLine hfeeds (by omega)
  | down =>
    by_cases hlast : lineCount t - 1 ≤ n
    · have hstays : clampedLine (lineCount t - 1) n (LineMotion.down.shift rows) = n := by
        simp only [clampedLine, shift]
        omega
      rw [hstays, run, Caret.down, hline, if_pos hlast]
      exact h
    · have hmoves : clampedLine (lineCount t - 1) n (LineMotion.down.shift rows) = n + 1 := by
        simp only [clampedLine, shift]
        omega
      rw [hmoves, run, Caret.down, hline, if_neg hlast]
      exact h.toLine hfeeds (by omega)
  | pageUp =>
    have hmoves : clampedLine (lineCount t - 1) n (LineMotion.pageUp.shift rows) = n - rows := by
      simp only [clampedLine, shift]
      omega
    rw [hmoves, run, Caret.pageUp, hline]
    exact h.toLine hfeeds (by omega)
  | pageDown =>
    have hmoves : clampedLine (lineCount t - 1) n (LineMotion.pageDown.shift rows) =
        min (n + rows) (lineCount t - 1) := by
      simp only [clampedLine, shift]
      omega
    rw [hmoves, run, Caret.pageDown, hline]
    exact h.toLine hfeeds (by omega)

/-- The caret behind a trip. -/
def travel (t : Text) (trip : List (LineMotion × Nat)) (caret : Caret) : Caret :=
  trip.foldl (fun caret step => step.1.run t step.2 caret) caret

/-- **A whole trip** ends in the line that its motions make, and nothing on the way takes the
column away. -/
theorem travel_aims (h : Aims t n column caret) (hfeeds : FeedsOnly t)
    (trip : List (LineMotion × Nat)) :
    Aims t (lineBehind (lineCount t - 1) n trip) column (travel t trip caret) := by
  induction trip generalizing n caret with
  | nil => exact h
  | cons step trip ih => exact ih (step.1.aims h hfeeds step.2)

end MarkupDesk.Editing
