/-
`Proofs/Screen/Wrap.lean` -- how many rows a line needs.

A line has at least the rows that its width needs and no fewer at a smaller width. The first
is an account: rows and column together stand for cells, and every word adds at least its
width to them, since a row that is left early only leaves cells empty (`addWord_account`).

The second is a race between two widths over the same words. The wider run is never behind:
it is on an earlier row, or on the same one and not further right (`Before`). A row apart
does not say much, since the wider run may be anywhere in its row. It is enough nevertheless:
a word that the wider run still puts there takes it past the end of the row by the space
behind the word at most, and a word that it moves begins on a row that the narrow run has
reached already (`addWord_before`).
-/
import Mathlib.Algebra.GroupWithZero.Nat
import MarkupDesk.Proofs.Text.Trim
import MarkupDesk.Screen.Wrap

set_option autoImplicit false

namespace MarkupDesk

/-! ## 1. Widths -/

namespace Text

/-- The columns of a character in a text. Line feeds have none, see `width_cons`. -/
def columns (c : Char) : Nat := if isControl c then 1 else charWidth c

/-- A line feed has no width, nor has the carriage return before one. -/
theorem width_cons (c : Char) (t : Text) :
    width (c :: t) =
      (if c = '\n' ∨ c = '\r' ∧ t.head? = some '\n' then 0 else columns c) + width t := by
  by_cases hfeed : c = '\n'
  · subst hfeed
    rw [if_pos (.inl rfl), Nat.zero_add, width]
  by_cases hreturn : c = '\r' ∧ t.head? = some '\n'
  · obtain ⟨rfl, hhead⟩ := hreturn
    obtain ⟨rest, rfl⟩ := List.head?_eq_some_iff.1 hhead
    rw [if_pos (.inr ⟨rfl, hhead⟩), Nat.zero_add, width, width]
  · rw [if_neg (not_or.2 ⟨hfeed, hreturn⟩), width]
    · rfl
    · rintro rest rfl rfl
      exact hreturn ⟨rfl, rfl⟩
    · exact hfeed

/-- Within one line, the width of a text is the sum of those of its characters. -/
theorem width_eq_sum {t : Text} (h : '\n' ∉ t) : width t = (t.map columns).sum := by
  induction t with
  | nil => rfl
  | cons c t ih =>
    have hnot : ¬ (c = '\n' ∨ c = '\r' ∧ t.head? = some '\n') := by
      rintro (rfl | ⟨-, hhead⟩)
      · exact h List.mem_cons_self
      · exact h (List.mem_cons_of_mem c (List.mem_of_head? hhead))
    rw [width_cons, if_neg hnot, ih fun hin => h (List.mem_cons_of_mem c hin), List.map_cons,
      List.sum_cons]

theorem width_space (t : Text) : width (' ' :: t) = 1 + width t := by
  have hnot : ¬ (' ' = '\n' ∨ ' ' = '\r' ∧ t.head? = some '\n') := by
    rintro (hfeed | ⟨hreturn, -⟩)
    · exact absurd hfeed (by decide)
    · exact absurd hreturn (by decide)
  rw [width_cons, if_neg hnot, show columns ' ' = 1 by decide]

theorem width_append_space (t : Text) : width (t ++ [' ']) = width t + 1 := by
  induction t with
  | nil => decide
  | cons c t ih =>
    have hhead : (t ++ [' ']).head? = some '\n' ↔ t.head? = some '\n' := by
      cases t with
      | nil => decide
      | cons d t => rfl
    rw [List.cons_append, width_cons, width_cons c t, ih, Nat.add_assoc]
    simp only [hhead]

end Text

namespace Screen

/-! ## 2. Words -/

/-- Characters other than spaces, and a space behind them or none. -/
def IsWord (word : Text) : Prop := ∃ t : Text, ' ' ∉ t ∧ (word = t ∨ word = t ++ [' '])

theorem IsWord.cons {word : Text} (h : IsWord word) {c : Char} (hc : c ≠ ' ') :
    IsWord (c :: word) := by
  obtain ⟨t, hspace, hword⟩ := h
  refine ⟨c :: t, ?_, hword.imp (congrArg (c :: ·)) (congrArg (c :: ·))⟩
  rw [List.mem_cons, not_or]
  exact ⟨hc.symm, hspace⟩

/-- A line is cut into words, each with one space behind it at most. -/
theorem words_isWord (line : Text) : ∀ word ∈ words line, IsWord word := by
  have hempty : ' ' ∉ ([] : Text) := List.not_mem_nil
  fun_induction words line with
  | case1 => exact List.forall_mem_nil _
  | case2 rest ih => exact List.forall_mem_cons.2 ⟨⟨[], hempty, .inr rfl⟩, ih⟩
  | case3 c rest hc _ _ =>
    exact List.forall_mem_singleton.2 (IsWord.cons ⟨[], hempty, .inl rfl⟩ hc)
  | case4 c rest hc word others hwords ih =>
    rw [hwords] at ih
    obtain ⟨hword, hothers⟩ := List.forall_mem_cons.1 ih
    exact List.forall_mem_cons.2 ⟨hword.cons hc, hothers⟩

/-- The first word begins as the line does. -/
theorem head?_of_words {line word : Text} {others : List Text} (h : words line = word :: others) :
    word.head? = line.head? := by
  cases line with
  | nil => cases h
  | cons c rest =>
    unfold words at h
    split at h
    · obtain ⟨rfl, -⟩ := List.cons.inj h
      rfl
    split at h
    all_goals
      obtain ⟨rfl, -⟩ := List.cons.inj h
      rfl

theorem eq_nil_of_words {line : Text} (h : words line = []) : line = [] := by
  cases line with
  | nil => rfl
  | cons c rest =>
    unfold words at h
    split at h
    · cases h
    split at h <;> cases h

/-- No width is lost between the words. -/
theorem sum_width_words (line : Text) : ((words line).map Text.width).sum = Text.width line := by
  fun_induction words line with
  | case1 => rfl
  | case2 rest ih =>
    rw [List.map_cons, List.sum_cons, ih, Text.width_space, Text.width_space rest]
    rfl
  | case3 c rest hc hwords ih =>
    rw [eq_nil_of_words hwords]
    rfl
  | case4 c rest hc word others hwords ih =>
    rw [hwords, List.map_cons, List.sum_cons] at ih
    rw [List.map_cons, List.sum_cons, Text.width_cons, Text.width_cons c rest, ← ih,
      head?_of_words hwords, Nat.add_assoc]

/-- The width of a word without the space behind it. -/
def visibleWidth (word : Text) : Nat := Text.width (word.dropEndWhile (· == ' '))

/-- A word has at most one space behind it, so its width is that of what can be seen of it, or
one more. -/
theorem IsWord.width_bounds {word : Text} (h : IsWord word) :
    visibleWidth word ≤ Text.width word ∧ Text.width word ≤ visibleWidth word + 1 := by
  obtain ⟨t, hspace, hword⟩ := h
  have hdrop : ∀ rest : Text, (t ++ rest).dropEndWhile (· == ' ') =
      t ++ rest.dropEndWhile (· == ' ') := by
    apply Text.dropEndWhile_append_of_not
    intro c hc
    rw [beq_eq_false_iff_ne]
    rintro rfl
    exact hspace hc
  -- what can be seen of the word is all in front of its space
  have hvisible : visibleWidth word = Text.width t := by
    rcases hword with rfl | rfl
    · have hself := hdrop []
      rw [List.append_nil] at hself
      rw [visibleWidth, hself]
      exact congrArg Text.width (List.append_nil word)
    · rw [visibleWidth, hdrop]
      exact congrArg Text.width (List.append_nil t)
  rw [hvisible]
  rcases hword with rfl | rfl
  · omega
  · rw [Text.width_append_space]
    omega

/-! ## 3. One word more -/

namespace WrapState

variable {w w' : Nat} {s s' : WrapState} {word : Text}

/-- The place of a word: the row that was begun, or the next one where the word does not fit. -/
def seat (width visible : Nat) (s : WrapState) : WrapState :=
  if 0 < s.column ∧ width < s.column + visible then ⟨s.rows + 1, 0⟩ else s

/-- To add a word is to give it a seat and to break what is wider than a row. -/
theorem addWord_eq (w : Nat) (s : WrapState) (word : Text) :
    s.addWord w word = breakFull w
      ⟨(s.seat w (visibleWidth word)).rows,
        (s.seat w (visibleWidth word)).column + Text.width word⟩ := rfl

/-- A word stays in its row where that is empty or has room, and begins a row otherwise. -/
theorem seat_cases (w visible : Nat) (s : WrapState) :
    (s.seat w visible).rows = s.rows ∧ (s.seat w visible).column = s.column ∧
        (s.column = 0 ∨ s.column + visible ≤ w) ∨
      (s.seat w visible).rows = s.rows + 1 ∧ (s.seat w visible).column = 0 ∧
        0 < s.column ∧ w < s.column + visible := by
  unfold seat
  split
  next hmoved => exact .inr ⟨rfl, rfl, hmoved⟩
  next hstays => exact .inl ⟨rfl, rfl, by omega⟩

/-- The full rows of a column are taken off it, and at most one row is left. -/
theorem full_bounds (hw : 0 < w) (column : Nat) :
    (column - 1) / w * w ≤ column ∧ column ≤ (column - 1) / w * w + w := by
  have hbelow := Nat.div_mul_le_self (column - 1) w
  have habove := Nat.lt_div_mul_add (a := column - 1) hw
  omega

theorem column_breakFull_le (hw : 0 < w) (s : WrapState) : (s.breakFull w).column ≤ w := by
  have hfull := full_bounds hw s.column
  simp only [breakFull]
  omega

/-- Breaking a row moves cells from the column to the rows and loses none. -/
theorem breakFull_account (hw : 0 < w) (s : WrapState) :
    (s.breakFull w).rows * w + (s.breakFull w).column = s.rows * w + s.column := by
  have hfull := full_bounds hw s.column
  simp only [breakFull]
  rw [Nat.add_mul]
  omega

theorem breakFull_of_le (h : s.column ≤ w) : s.breakFull w = s := by
  have hnone : (s.column - 1) / w = 0 := by
    rw [Nat.div_eq_zero_iff]
    omega
  simp only [breakFull, hnone, Nat.zero_mul, Nat.add_zero, Nat.sub_zero]

/-- One column too many is the first one of the next row. -/
theorem breakFull_succ (hw : 0 < w) (rows : Nat) :
    breakFull w ⟨rows, w + 1⟩ = ⟨rows + 1, 1⟩ := by
  simp only [breakFull, Nat.add_sub_cancel, Nat.div_self hw, Nat.one_mul, Nat.add_sub_cancel_left]

theorem rows_le_breakFull (w : Nat) (s : WrapState) : s.rows ≤ (s.breakFull w).rows :=
  Nat.le_add_right _ _

theorem rows_le_addWord (w : Nat) (s : WrapState) (word : Text) :
    s.rows ≤ (s.addWord w word).rows := by
  have hseat := seat_cases w (visibleWidth word) s
  rw [addWord_eq]
  apply Nat.le_trans _ (rows_le_breakFull w _)
  show s.rows ≤ (s.seat w (visibleWidth word)).rows
  omega

theorem column_addWord_le (hw : 0 < w) (s : WrapState) (word : Text) :
    (s.addWord w word).column ≤ w := column_breakFull_le hw _

/-- A word takes at least its width: the cells of a row that it leaves early are lost. -/
theorem addWord_account (hw : 0 < w) (hcolumn : s.column ≤ w) (word : Text) :
    s.rows * w + s.column + Text.width word ≤
      (s.addWord w word).rows * w + (s.addWord w word).column := by
  rw [addWord_eq, breakFull_account hw, Nat.add_assoc]
  simp only
  obtain ⟨hrows, hstart, -⟩ | ⟨hrows, hstart, -⟩ := seat_cases w (visibleWidth word) s
  · rw [hrows, hstart]
  · rw [hrows, hstart, Nat.add_mul]
    omega

/-- A word that fits is put behind what is in the row. -/
theorem addWord_of_fits (hword : IsWord word) (h : s.column + Text.width word ≤ w) :
    s.addWord w word = ⟨s.rows, s.column + Text.width word⟩ := by
  have hvisible := hword.width_bounds.1
  obtain ⟨hrows, hstart, -⟩ | ⟨-, -, -, hfull⟩ := seat_cases w (visibleWidth word) s
  · rw [addWord_eq, hrows, hstart, breakFull_of_le h]
  · omega

/-! ## 4. Two widths -/

/-- The first state is on an earlier row, or on the same one and not further right. -/
def Before (s' s : WrapState) : Prop :=
  s'.rows < s.rows ∨ s'.rows = s.rows ∧ s'.column ≤ s.column

theorem Before.rows_le (h : Before s' s) : s'.rows ≤ s.rows := by
  unfold Before at h
  omega

/-- The wider row is broken less often, and what is cut off it is longer. -/
theorem breakFull_before {rows rows' column column' : Nat} (hw : 0 < w) (hle : w ≤ w')
    (hrows : rows' ≤ rows) (hcolumn : column' ≤ column) :
    Before (breakFull w' ⟨rows', column'⟩) (breakFull w ⟨rows, column⟩) := by
  have hfull : (column' - 1) / w' ≤ (column - 1) / w :=
    Nat.div_le_div (Nat.sub_le_sub_right hcolumn 1) hle (Nat.ne_of_gt hw)
  simp only [Before, breakFull]
  by_cases hsame : rows' = rows ∧ (column' - 1) / w' = (column - 1) / w
  · -- as many full rows are cut off either column, and those of the wider run are longer
    obtain ⟨hrow, hquot⟩ := hsame
    have hcut := Nat.mul_le_mul_left ((column - 1) / w) hle
    rw [hquot]
    omega
  · omega

/-- A word that is put behind something ends in that row but for the space behind it, so it does
not get past the first column of the next row; a run that is there already stays behind. -/
theorem breakFull_before_next {rows rows' column column' : Nat} (hw : 0 < w) (hle : w ≤ w')
    (hrows : rows' < rows) (hcolumn : column' ≤ w' + 1) (hsome : w' < column' → 0 < column) :
    Before (breakFull w' ⟨rows', column'⟩) (breakFull w ⟨rows, column⟩) := by
  by_cases hfits : column' ≤ w'
  · have hrow := rows_le_breakFull w ⟨rows, column⟩
    rw [breakFull_of_le hfits]
    exact .inl (Nat.lt_of_lt_of_le hrows hrow)
  · -- the wider line breaks here, and its next row begins no later than the row of the narrower
    -- one
    obtain rfl : column' = w' + 1 := by omega
    have hone : 1 ≤ w' := by omega
    have hnext : breakFull w' ⟨rows' + 1, 1⟩ = ⟨rows' + 1, 1⟩ := breakFull_of_le hone
    rw [breakFull_succ hone, ← hnext]
    apply breakFull_before hw hle
    · exact hrows
    · apply hsome
      omega

/-- **The wider run stays ahead.** Where its word comes to stand at the start of a row, or in the
same row as that of the narrow run, it is a matter of breaking rows. Otherwise the narrow run is
on a later row already. -/
theorem addWord_before (hw : 0 < w) (hle : w ≤ w') (hword : IsWord word) (h : Before s' s) :
    Before (s'.addWord w' word) (s.addWord w word) := by
  obtain ⟨hvisible, hspace⟩ := hword.width_bounds
  have hnarrow := seat_cases w (visibleWidth word) s
  have hwide := seat_cases w' (visibleWidth word) s'
  unfold Before at h
  rw [addWord_eq, addWord_eq]
  by_cases hstart : (s'.seat w' (visibleWidth word)).column = 0 ∨
      (s'.seat w' (visibleWidth word)).rows = (s.seat w (visibleWidth word)).rows
  · -- a word that is moved out of a row that both runs are in is moved by the narrow one, too. If
    -- both are in one row behind that, neither is moved, and the columns are as they were
    apply breakFull_before hw hle
    · omega
    · omega
  · -- not moved and a row apart, the word fits but for its space. If that takes the wider run past
    -- the end, it has a column in the narrow run as well
    apply breakFull_before_next hw hle
    · omega
    · omega
    · omega

/-! ## 5. A whole line -/

variable {line : List Text}

/-- A run never goes back to an earlier row. -/
theorem rows_le_foldl (w : Nat) (line : List Text) (s : WrapState) :
    s.rows ≤ (line.foldl (addWord w) s).rows := by
  induction line generalizing s with
  | nil => exact Nat.le_refl s.rows
  | cons word line ih => exact Nat.le_trans (rows_le_addWord w s word) (ih (s.addWord w word))

/-- A run takes at least the width of its words, and ends within a row. -/
theorem foldl_account (hw : 0 < w) (line : List Text) (hcolumn : s.column ≤ w) :
    s.rows * w + s.column + (line.map Text.width).sum ≤
        (line.foldl (addWord w) s).rows * w + (line.foldl (addWord w) s).column ∧
      (line.foldl (addWord w) s).column ≤ w := by
  induction line generalizing s with
  | nil => exact ⟨Nat.le_refl _, hcolumn⟩
  | cons word line ih =>
    obtain ⟨haccount, hend⟩ := ih (column_addWord_le hw s word)
    have hfirst := addWord_account hw hcolumn word
    rw [List.map_cons, List.sum_cons, List.foldl_cons]
    exact ⟨by omega, hend⟩

/-- Words that fit side by side stay in their row. -/
theorem foldl_of_fits (hline : ∀ word ∈ line, IsWord word)
    (h : s.column + (line.map Text.width).sum ≤ w) :
    (line.foldl (addWord w) s).rows = s.rows := by
  induction line generalizing s with
  | nil => rfl
  | cons word line ih =>
    obtain ⟨hword, hothers⟩ := List.forall_mem_cons.1 hline
    rw [List.map_cons, List.sum_cons, ← Nat.add_assoc] at h
    rw [List.foldl_cons, addWord_of_fits hword (by omega)]
    exact ih hothers h

/-- **At a greater width a run is never behind.** -/
theorem foldl_before (hw : 0 < w) (hle : w ≤ w') (hline : ∀ word ∈ line, IsWord word)
    (h : Before s' s) : Before (line.foldl (addWord w') s') (line.foldl (addWord w) s) := by
  -- the states are arbitrary in the induction: a word leaves two others, of which as much is known
  induction line generalizing s s' with
  | nil => exact h
  | cons word line ih =>
    obtain ⟨hword, hothers⟩ := List.forall_mem_cons.1 hline
    exact ih hothers (addWord_before hw hle hword h)

end WrapState

section Line

variable {w w' : Nat}

/-- A line has one row at least, even if it is empty. -/
theorem wrappedLineRows_pos (w : Nat) (line : Text) : 1 ≤ wrappedLineRows w line :=
  WrapState.rows_le_foldl w (words line) ⟨1, 0⟩

/-- The rows of a line have room for it. -/
theorem width_le_wrappedLineRows (hw : 0 < w) (line : Text) :
    Text.width line ≤ wrappedLineRows w line * w := by
  have hrun := WrapState.foldl_account (s := ⟨1, 0⟩) hw (words line) (Nat.zero_le w)
  rw [sum_width_words] at hrun
  unfold wrappedLineRows
  simp only at hrun
  omega

/-- A line has one row exactly if it fits into the width. -/
theorem wrappedLineRows_eq_one_iff (hw : 0 < w) (line : Text) :
    wrappedLineRows w line = 1 ↔ Text.width line ≤ w := by
  constructor
  · intro hone
    have hroom := width_le_wrappedLineRows hw line
    rwa [hone, Nat.one_mul] at hroom
  · intro hfits
    apply WrapState.foldl_of_fits (words_isWord line)
    rwa [sum_width_words, Nat.zero_add]

/-- A wider pane never needs more rows for a line. -/
theorem wrappedLineRows_antitone (hw : 0 < w) (hle : w ≤ w') (line : Text) :
    wrappedLineRows w' line ≤ wrappedLineRows w line := by
  apply WrapState.Before.rows_le
  apply WrapState.foldl_before hw hle (words_isWord line)
  exact .inr ⟨rfl, Nat.le_refl 0⟩

/-! ## 6. All lines -/

/-- There are at least as many rows as lines. -/
theorem length_le_rowsWithin (w : Nat) (lines : List Text) : lines.length ≤ rowsWithin w lines := by
  induction lines with
  | nil => exact Nat.le_refl 0
  | cons line lines ih =>
    have hfirst := wrappedLineRows_pos w line
    rw [List.length_cons, rowsWithin]
    omega

/-- The rows have cells enough for all lines. -/
theorem sum_width_le_rowsWithin (hw : 0 < w) (lines : List Text) :
    (lines.map Text.width).sum ≤ rowsWithin w lines * w := by
  induction lines with
  | nil => exact Nat.zero_le _
  | cons line lines ih =>
    have hfirst := width_le_wrappedLineRows hw line
    rw [List.map_cons, List.sum_cons, rowsWithin, Nat.add_mul]
    omega

/-- No line needs a second row exactly if all of them fit. -/
theorem rowsWithin_eq_length_iff (hw : 0 < w) (lines : List Text) :
    rowsWithin w lines = lines.length ↔ ∀ line ∈ lines, Text.width line ≤ w := by
  induction lines with
  | nil => exact ⟨fun _ => List.forall_mem_nil _, fun _ => rfl⟩
  | cons line lines ih =>
    have hfirst := wrappedLineRows_pos w line
    have hothers := length_le_rowsWithin w lines
    rw [List.forall_mem_cons, ← ih, ← wrappedLineRows_eq_one_iff hw, rowsWithin, List.length_cons]
    omega

/-- A wider pane needs no more rows. -/
theorem rowsWithin_antitone (hw : 0 < w) (hle : w ≤ w') (lines : List Text) :
    rowsWithin w' lines ≤ rowsWithin w lines := by
  induction lines with
  | nil => exact Nat.le_refl 0
  | cons line lines ih => exact Nat.add_le_add (wrappedLineRows_antitone hw hle line) ih

/-- **The counts are sound, and monotone in the width.** A line has at least one row, and rows
enough for its width; it has one row exactly if it fits; and a wider pane never gives it more.
The width is the sum of those of the characters. The rows of several lines have the same bounds,
where no columns count as one. -/
theorem wrapped_bounds (hle : w ≤ w') (line : Text) (lines : List Text) :
    (1 ≤ w →
      1 ≤ wrappedLineRows w line ∧
      Text.width line ≤ wrappedLineRows w line * w ∧
      (wrappedLineRows w line = 1 ↔ Text.width line ≤ w) ∧
      wrappedLineRows w' line ≤ wrappedLineRows w line) ∧
    ('\n' ∉ line → Text.width line = (line.map Text.columns).sum) ∧
    lines.length ≤ wrappedRows lines w ∧
    (lines.map Text.width).sum ≤ wrappedRows lines w * max w 1 ∧
    (wrappedRows lines w = lines.length ↔ ∀ line ∈ lines, Text.width line ≤ max w 1) ∧
    wrappedRows lines w' ≤ wrappedRows lines w := by
  have hpos : 0 < max w 1 := Nat.le_max_right w 1
  have hmax : max w 1 ≤ max w' 1 := by omega
  refine ⟨fun hw => ⟨?_, ?_, ?_, ?_⟩, Text.width_eq_sum, ?_, ?_, ?_, ?_⟩
  · exact wrappedLineRows_pos w line
  · exact width_le_wrappedLineRows hw line
  · exact wrappedLineRows_eq_one_iff hw line
  · exact wrappedLineRows_antitone hw hle line
  · exact length_le_rowsWithin (max w 1) lines
  · exact sum_width_le_rowsWithin hpos lines
  · exact rowsWithin_eq_length_iff hpos lines
  · exact rowsWithin_antitone hpos hmax lines

/-- Two ideographs, a letter with its accent behind it, and a word that four columns have no room
for. -/
theorem wrapped_bounds_ideographs :
    let line : Text := "\u4E2D\u6587 e\u0301 abcdef"
    4 ≤ 6 ∧ 1 ≤ 4 ∧ '\n' ∉ line ∧ wrappedLineRows 4 line = 4 ∧ wrappedLineRows 6 line = 3 ∧
      wrappedLineRows 6 line ≤ wrappedLineRows 4 line ∧
      Text.width line = (line.map Text.columns).sum ∧
      wrappedRows [line, []] 6 ≤ wrappedRows [line, []] 4 := by
  intro line
  have hline : '\n' ∉ line := by decide +kernel
  have hwider : 4 ≤ 6 := by decide
  have hbounds := wrapped_bounds hwider line [line, []]
  refine ⟨hwider, by decide, hline, by decide +kernel, by decide +kernel, ?_, ?_, ?_⟩
  · exact (hbounds.1 (by decide)).2.2.2
  · exact hbounds.2.1 hline
  · exact hbounds.2.2.2.2.2

end Line

end Screen

end MarkupDesk
