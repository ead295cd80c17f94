/-
`Proofs/Editing/Motion.lean` -- the line on which a motion lands.

Lines are counted by all line breaks, but the length of a line leaves out a line feed only.
A line that ends with another break is therefore as long as the place behind its break, and
that place is the start of the line below: a motion to the end of such a line, or to a column
that it does not reach, goes one line too far. `landing` is where the caret gets to, and the
work is in `locate_take_add`, which finds a place from its line and column. Nothing goes too
far where the lines end with line feeds, also behind a carriage return (`landing_eq`).
-/
import MarkupDesk.Proofs.Editing.Lines

set_option autoImplicit false

namespace MarkupDesk.Editing

/-! ## 1. Where a motion goes too far -/

/-- The line ends with a line break that its length takes in. -/
def BreaksOtherwise (line : Text) : Prop :=
  ∃ c ∈ line.getLast?, isLineBreak c = true ∧ c ≠ '\n'

instance (line : Text) : Decidable (BreaksOtherwise line) :=
  inferInstanceAs (Decidable (∃ c ∈ line.getLast?, isLineBreak c = true ∧ c ≠ '\n'))

/-- The column is behind the line break of the line. -/
def Overshoots (t : Text) (n column : Nat) : Prop :=
  ∃ line ∈ line? t n, BreaksOtherwise line ∧ line.length ≤ column

instance (t : Text) (n column : Nat) : Decidable (Overshoots t n column) :=
  inferInstanceAs (Decidable (∃ line ∈ line? t n, BreaksOtherwise line ∧ line.length ≤ column))

/-- The line that a caret gets to when it aims at a column of a line. -/
def landing (t : Text) (target column : Nat) : Nat :=
  if Overshoots t target column then target + 1 else target

/-- On lines that end with line feeds every motion gets where it aims. -/
theorem landing_eq {t : Text} (h : ∀ line ∈ lines t, ¬ BreaksOtherwise line)
    (target column : Nat) : landing t target column = target := by
  have hin : ¬ Overshoots t target column := by
    rintro ⟨line, hline, hbreak, -⟩
    exact h line (List.mem_of_getElem? hline) hbreak
  rw [landing, if_neg hin]

/-! ## 2. What a line ends with -/

/-- A line ends with a line break. -/
def Broken (line : Text) : Prop := ∃ c ∈ line.getLast?, isLineBreak c = true

/-- What stands in front does not change the end of a line. -/
theorem Broken.cons {line : Text} (h : Broken line) (c : Char) : Broken (c :: line) := by
  obtain ⟨d, hd, hbreak⟩ := h
  refine ⟨d, ?_, hbreak⟩
  rw [List.getLast?_cons, Option.mem_def.1 hd]
  rfl

/-- A line that ends with a break is not empty. -/
theorem Broken.length_pos {line : Text} (h : Broken line) : 0 < line.length := by
  obtain ⟨c, hc, -⟩ := h
  exact List.length_pos_of_mem (List.mem_of_getLast? hc)

/-- Every line but the last one ends with a line break, and the last one has none in it. -/
theorem lines_eq_append (t : Text) : ∃ broken last, lines t = broken ++ [last] ∧
    (∀ line ∈ broken, Broken line) ∧ ∀ c ∈ last, isLineBreak c = false := by
  fun_induction lines t with
  | case1 => exact ⟨[], [], rfl, List.forall_mem_nil _, List.forall_mem_nil _⟩
  | case2 rest ih =>
    obtain ⟨broken, last, hlines, hbroken, hlast⟩ := ih
    have hline : Broken ['\r', '\n'] := ⟨'\n', rfl, by decide⟩
    refine ⟨['\r', '\n'] :: broken, last, ?_, List.forall_mem_cons.2 ⟨hline, hbroken⟩, hlast⟩
    rw [hlines, List.cons_append]
  | case3 c rest _ hbreak ih =>
    obtain ⟨broken, last, hlines, hbroken, hlast⟩ := ih
    have hline : Broken [c] := ⟨c, rfl, hbreak⟩
    refine ⟨[c] :: broken, last, ?_, List.forall_mem_cons.2 ⟨hline, hbroken⟩, hlast⟩
    rw [hlines, List.cons_append]
  | case4 c rest _ _ hnil => exact absurd hnil (lines_ne_nil rest)
  | case5 c rest _ hbreak first others hlines ih =>
    obtain ⟨broken, last, hsplit, hbroken, hlast⟩ := ih
    -- the character goes to the first line, which is the last one if there is no other
    cases broken with
    | nil =>
      obtain ⟨rfl, rfl⟩ := List.cons.inj (hlines.symm.trans hsplit)
      have hc : isLineBreak c = false := Bool.eq_false_iff.2 hbreak
      exact ⟨[], c :: first, rfl, hbroken, List.forall_mem_cons.2 ⟨hc, hlast⟩⟩
    | cons line broken =>
      obtain ⟨rfl, rfl⟩ := List.cons.inj (hlines.symm.trans hsplit)
      obtain ⟨hfirst, hbroken⟩ := List.forall_mem_cons.1 hbroken
      have hline : Broken (c :: first) := hfirst.cons c
      exact ⟨(c :: first) :: broken, last, rfl, List.forall_mem_cons.2 ⟨hline, hbroken⟩, hlast⟩

variable {t line : Text} {n column : Nat}

/-- Every line but the last one ends with a line break; that is what makes it a line. -/
theorem broken_of_lt (h : line? t n = some line) (hn : n + 1 < lineCount t) : Broken line := by
  obtain ⟨broken, last, hlines, hbroken, -⟩ := lines_eq_append t
  rw [lineCount, hlines, List.length_append, List.length_singleton] at hn
  rw [line?, hlines, List.getElem?_append_left (by omega)] at h
  exact hbroken line (List.mem_of_getElem? h)

/-- The last line has no line break at all. -/
theorem unbroken_of_last (h : line? t n = some line) (hn : n + 1 = lineCount t) :
    ∀ c ∈ line, isLineBreak c = false := by
  obtain ⟨broken, last, hlines, -, hlast⟩ := lines_eq_append t
  rw [lineCount, hlines, List.length_append, List.length_singleton] at hn
  obtain rfl : n = broken.length := by omega
  obtain rfl : last = line := by simpa [line?, hlines] using h
  exact hlast

/-- So no motion goes too far in the last line. -/
theorem not_breaksOtherwise_of_last (h : line? t n = some line) (hn : n + 1 = lineCount t) :
    ¬ BreaksOtherwise line := by
  rintro ⟨c, hc, hbreak, -⟩
  have hnot := unbroken_of_last h hn c (List.mem_of_getLast? hc)
  rw [hbreak] at hnot
  exact absurd hnot (by decide)

/-! ## 3. The line of a place -/

/-- A line and a column in it are found again from the place they make. In the last line any
column will do, as no line follows that the place could be in. -/
theorem locate_take_add {ls : List Text} (h : ls[n]? = some line)
    (hc : column < line.length ∨ n + 1 = ls.length) :
    locate ls ((ls.take n).flatten.length + column) = (n, column) := by
  induction ls generalizing n with
  | nil => simp at h
  | cons first others ih =>
    cases n with
    | zero =>
      obtain rfl : first = line := by simpa using h
      rw [List.take_zero, List.flatten_nil, List.length_nil, Nat.zero_add]
      -- a place behind the last line stays in it
      cases others with
      | nil => rfl
      | cons next others =>
        have hlt : column < first.length := by simpa using hc
        simp only [locate, if_pos hlt]
    | succ n =>
      have hfound := ih (by simpa using h) (by simpa using hc)
      rw [List.take_succ_cons, List.flatten_cons, List.length_append, Nat.add_assoc]
      cases others with
      | nil => simp at h
      | cons next others =>
        have hge : ¬ first.length + (((next :: others).take n).flatten.length + column)
            < first.length := by omega
        simp only [locate, if_neg hge, Nat.add_sub_cancel_left, hfound]

/-- The place that a line and a column make is in that line and column, if the column is one
of the line. At the end of a line, behind its break, the next line has begun. -/
theorem lineColumn_lineStart_add (h : line? t n = some line)
    (hc : column < line.length ∨ n + 1 = lineCount t ∧ column ≤ line.length) :
    lineColumn t (lineStart t n + column) = (n, column) := by
  have hend := lineStart_add_length_le h
  rw [lineColumn, Nat.min_eq_left (by omega)]
  exact locate_take_add h (hc.imp_right And.left)

/-- There is a line for each number below their count. -/
theorem exists_line (hn : n < lineCount t) : ∃ line, line? t n = some line :=
  ⟨(lines t)[n], List.getElem?_eq_getElem hn⟩

/-- The start of a line is in that line: the lines above the last one are not empty. -/
theorem lineColumn_lineStart (hn : n < lineCount t) :
    lineColumn t (lineStart t n) = (n, 0) := by
  obtain ⟨line, hline⟩ := exists_line hn
  have hfirst : 0 < line.length ∨ n + 1 = lineCount t ∧ 0 ≤ line.length := by
    by_cases hlast : n + 1 = lineCount t
    · exact .inr ⟨hlast, Nat.zero_le _⟩
    · exact .inl (broken_of_lt hline (by omega)).length_pos
  exact lineColumn_lineStart_add hline hfirst

/-! ## 4. The length of a line -/

/-- The length leaves out a line feed, and no other break. -/
theorem lineLength_of_line (h : line? t n = some line) :
    lineLength t n = if line.getLast? = some '\n' then line.length - 1 else line.length := by
  rw [lineLength, h]

/-- The length is never more than the line has. -/
theorem lineLength_le (h : line? t n = some line) : lineLength t n ≤ line.length := by
  rw [lineLength_of_line h]
  split <;> omega

/-- A motion goes too far where a line is followed by another one and is as long as the way
to it, its line break included. -/
theorem overshoots_iff (h : line? t n = some line) (column : Nat) :
    Overshoots t n column ↔
      n + 1 < lineCount t ∧ line.length ≤ lineLength t n ∧ line.length ≤ column := by
  have hn : n < lineCount t := (List.getElem?_eq_some_iff.1 h).1
  have hover : Overshoots t n column ↔ BreaksOtherwise line ∧ line.length ≤ column := by
    simp [Overshoots, h]
  rw [hover]
  constructor
  · rintro ⟨hbreaks, hcolumn⟩
    have hlast : n + 1 ≠ lineCount t := fun hlast =>
      not_breaksOtherwise_of_last h hlast hbreaks
    -- the break is no line feed, so it is counted in the length
    obtain ⟨c, hc, -, hne⟩ := hbreaks
    have hlf : line.getLast? ≠ some '\n' := by
      rw [Option.mem_def.1 hc]
      simpa using hne
    rw [lineLength_of_line h, if_neg hlf]
    exact ⟨by omega, Nat.le_refl _, hcolumn⟩
  · rintro ⟨hlt, hlength, hcolumn⟩
    have hbroken := broken_of_lt h hlt
    have hpos := hbroken.length_pos
    obtain ⟨c, hc, hbreak⟩ := hbroken
    refine ⟨⟨c, hc, hbreak, ?_⟩, hcolumn⟩
    rintro rfl
    rw [lineLength_of_line h, if_pos (Option.mem_def.1 hc)] at hlength
    omega

/-- The place that is as near to a column of a line as the line is long is in that line, or
at the start of the line below. -/
theorem line_landing (hn : n < lineCount t) (column : Nat) :
    (lineColumn t (lineStart t n + min column (lineLength t n))).1 = landing t n column := by
  obtain ⟨line, hline⟩ := exists_line hn
  have hle := lineLength_le hline
  have hiff := overshoots_iff hline column
  by_cases hover : Overshoots t n column
  · obtain ⟨hlt, hlength, hcolumn⟩ := hiff.1 hover
    have hmin : min column (lineLength t n) = line.length := by omega
    rw [landing, if_pos hover, hmin, ← lineStart_succ hline, lineColumn_lineStart hlt]
  · rw [landing, if_neg hover, lineColumn_lineStart_add hline]
    rw [hiff] at hover
    omega

/-! ## 5. The motions -/

namespace Caret

/-- The column that a motion between lines aims at. -/
def aim (t : Text) (caret : Caret) : Nat := caret.column.getD (caret.currentColumn t)

/-- A motion to a line aims at the column that the caret remembers, or is in. -/
theorem line_toLine (caret : Caret) {target : Nat} (h : target < lineCount t) :
    (caret.toLine t target).line t = landing t target (caret.aim t) :=
  line_landing h (caret.aim t)

/-- The start of a line is always in it. -/
theorem line_home (t : Text) (caret : Caret) : (caret.home t).line t = caret.line t := by
  rw [home, line, ofPlace, lineColumn_lineStart (line_lt t caret)]

/-- The end of a line is the column behind its last character, which is where a motion may go
too far. -/
theorem line_lineEnd (t : Text) (caret : Caret) :
    (caret.lineEnd t).line t = landing t (caret.line t) (lineLength t (caret.line t)) := by
  rw [← line_landing (line_lt t caret), Nat.min_self]
  rfl

/-- Every motion gets to the line it is for, or one line too far where that line ends with a
line break other than a line feed and the caret aims behind it. The end of such a line is
always behind it. -/
theorem motion_lands (t : Text) (rows : Nat) (caret : Caret) :
    (caret.home t).line t = caret.line t ∧
    (caret.lineEnd t).line t = landing t (caret.line t) (lineLength t (caret.line t)) ∧
    (if caret.line t = 0 then caret.up t = caret
      else (caret.up t).line t = landing t (caret.line t - 1) (caret.aim t)) ∧
    (if caret.line t = lineCount t - 1 then caret.down t = caret
      else (caret.down t).line t = landing t (caret.line t + 1) (caret.aim t)) ∧
    (caret.pageUp t rows).line t = landing t (caret.line t - rows) (caret.aim t) ∧
    (caret.pageDown t rows).line t =
      landing t (min (caret.line t + rows) (lineCount t - 1)) (caret.aim t) := by
  have hline := line_lt t caret
  -- each motion looks its line up; what is left is that there is one
  refine ⟨line_home t caret, line_lineEnd t caret, ?_, ?_, ?_, ?_⟩
  · unfold up
    split
    · rfl
    · exact line_toLine caret (by omega)
  · unfold down
    split
    · rw [if_pos (by omega)]
    · rw [if_neg (by omega)]
      exact line_toLine caret (by omega)
  · exact line_toLine caret (by omega)
  · exact line_toLine caret (by omega)

/-- In front of a form feed, the end of the line is the start of the next one. From behind the
third column of that one, the motion up gets to the same place and stays on its line. -/
theorem lineEnd_leaves_line :
    let t : Text := ['a', '\x0c', 'b', 'c', 'd']
    ((ofPlace 0).lineEnd t).line t ≠ (ofPlace 0).line t ∧
      (ofPlace 5).line t = 1 ∧ ((ofPlace 5).up t).line t ≠ 0 := by
  decide

end Caret

end MarkupDesk.Editing
