/-
`Proofs/Editing/Lines.lean` -- lines and places.

The lines of a buffer put together are the buffer, so the start of a line and a column in it
make a place. `locate_spec` says that the line and the column found for a place give the place
back, and that there is such a line; from it comes every bound on the motions of a caret.
-/
import MarkupDesk.Editing.Caret

set_option autoImplicit false

namespace MarkupDesk.Editing

/-! ## 1. The start of a line -/

/-- The first lines are not longer than all of them. -/
theorem length_take_flatten_le (ls : List Text) (n : Nat) :
    (ls.take n).flatten.length ≤ ls.flatten.length := by
  have hall : (ls.take n).flatten ++ (ls.drop n).flatten = ls.flatten := by
    rw [← List.flatten_append, List.take_append_drop]
  rw [← hall, List.length_append]
  omega

/-- A line begins in the text, or at its end. Asked for the start of a line that is not there,
the text's end is what is given. -/
theorem lineStart_le (t : Text) (n : Nat) : lineStart t n ≤ t.length := by
  have hle := length_take_flatten_le (lines t) n
  rwa [flatten_lines] at hle

/-- The next line begins where the line ends. -/
theorem lineStart_succ {t line : Text} {n : Nat} (h : line? t n = some line) :
    lineStart t (n + 1) = lineStart t n + line.length := by
  rw [lineStart, lineStart, List.take_add_one, ← line?, h]
  simp

/-- A line ends within the buffer. -/
theorem lineStart_add_length_le {t line : Text} {n : Nat} (h : line? t n = some line) :
    lineStart t n + line.length ≤ t.length := by
  rw [← lineStart_succ h]
  exact lineStart_le t (n + 1)

/-- So does it end in the text. -/
theorem lineStart_add_lineLength_le (t : Text) (n : Nat) :
    lineStart t n + lineLength t n ≤ t.length := by
  have hstart := lineStart_le t n
  unfold lineLength
  split
  · omega
  next line hline =>
    have hend := lineStart_add_length_le hline
    split <;> omega

/-! ## 2. The line of a place -/

/-- The line and the column that are found give the place back. -/
theorem locate_spec {ls : List Text} (hls : ls ≠ []) {place : Nat}
    (h : place ≤ ls.flatten.length) :
    (locate ls place).1 < ls.length ∧
      (ls.take (locate ls place).1).flatten.length + (locate ls place).2 = place := by
  induction ls generalizing place with
  | nil => exact absurd rfl hls
  | cons line others ih =>
    cases others with
    | nil => exact ⟨Nat.zero_lt_one, Nat.zero_add place⟩
    | cons next others =>
      by_cases hline : place < line.length
      · simp only [locate, if_pos hline]
        exact ⟨Nat.succ_pos _, Nat.zero_add place⟩
      -- the place is behind this line, and counted from its end
      · have hrest : place - line.length ≤ (next :: others).flatten.length := by
          rw [List.flatten_cons, List.length_append] at h
          omega
        obtain ⟨hlt, hplace⟩ := ih (List.cons_ne_nil next others) hrest
        simp only [locate, if_neg hline, List.take_succ_cons, List.flatten_cons,
          List.length_append, List.length_cons]
        rw [List.length_cons] at hlt
        exact ⟨by omega, by omega⟩

/-- `locate_spec` for the lines of a text: the line exists, and its start and the column make
the place, which is cut off at the end of the text. -/
theorem lineColumn_spec (t : Text) (place : Nat) :
    (lineColumn t place).1 < lineCount t ∧
      lineStart t (lineColumn t place).1 + (lineColumn t place).2 = min place t.length := by
  have hle : min place t.length ≤ (lines t).flatten.length := by
    rw [flatten_lines]
    exact Nat.min_le_right _ _
  exact locate_spec (lines_ne_nil t) hle

/-! ## 3. The caret -/

namespace Caret

variable {t : Text} {caret : Caret}

/-- The line of a caret is one of the text, wherever the caret is. -/
theorem line_lt (t : Text) (caret : Caret) : caret.line t < lineCount t :=
  (lineColumn_spec t caret.place).1

/-- Whatever the column that is aimed at, a motion to a line stays within the buffer. -/
theorem place_toLine_le (t : Text) (target : Nat) (caret : Caret) :
    (caret.toLine t target).place ≤ t.length := by
  have hline := lineStart_add_lineLength_le t target
  simp only [toLine]
  omega

/-- No motion leaves the text. Those to the side have to begin in it; those to a line and to
the ends of a line get into it from anywhere. -/
theorem place_left_le (h : caret.place ≤ t.length) : caret.left.place ≤ t.length := by
  simp only [left, ofPlace]
  omega

theorem place_right_le (h : caret.place ≤ t.length) : (caret.right t).place ≤ t.length := by
  simp only [right, ofPlace]
  split <;> omega

theorem place_home_le (t : Text) (caret : Caret) : (caret.home t).place ≤ t.length :=
  lineStart_le t _

theorem place_lineEnd_le (t : Text) (caret : Caret) : (caret.lineEnd t).place ≤ t.length :=
  lineStart_add_lineLength_le t _

/-- Upwards and downwards there may be no line to go to, and then the caret stays. -/
theorem place_up_le (h : caret.place ≤ t.length) : (caret.up t).place ≤ t.length := by
  unfold up
  split
  · exact h
  · exact place_toLine_le t _ caret

theorem place_down_le (h : caret.place ≤ t.length) : (caret.down t).place ≤ t.length := by
  unfold down
  split
  · exact h
  · exact place_toLine_le t _ caret

end Caret

end MarkupDesk.Editing
