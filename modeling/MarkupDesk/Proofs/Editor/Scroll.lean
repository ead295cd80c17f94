/-
`Proofs/Editor/Scroll.lean` -- the caret is on the screen, and the preview beside it.

A pane shows a window of its lines, from its scroll on. The window of the editor moves no
further than the caret's line takes it, so a line that is in it already leaves it alone
(`scrollTo_window`, `scrollTo_eq_self`). The window of the preview is put around the row that
is as far down the page as the caret's line is down the text. That row is a row of the page,
which is why the end of the page cannot push it out of the window (`followScroll_window`).

In its line, the caret is put behind the characters before it, or in the last column but one
of the pane where they are wider than that.
-/
import MarkupDesk.Proofs.Editing.Lines
import MarkupDesk.Proofs.Editor.Run
import MarkupDesk.Proofs.Screen.Geometry

set_option autoImplicit false

namespace MarkupDesk.Editor

open Screen (Layout Rect cap limit)

/-! ## 1. The window of the editor -/

section Window

variable {line line' lineCount total rows scroll : Nat}

/-- The line is in the window behind the scrolling. -/
theorem scrollTo_window (line scroll : Nat) (hrows : 0 < rows) :
    scrollTo line rows scroll ≤ line ∧ line < scrollTo line rows scroll + rows := by
  unfold scrollTo
  split
  · omega
  split
  · omega
  · omega

/-- A line that is in the window leaves it where it is. -/
theorem scrollTo_eq_self (habove : scroll ≤ line) (hbelow : line < scroll + rows) :
    scrollTo line rows scroll = scroll := by
  rw [scrollTo, if_neg (Nat.not_lt.2 habove), if_neg (Nat.not_le.2 hbelow)]

/-! ## 2. The window of the preview -/

/-- As far down the page as a line is down the text there is a row, if the page has any. -/
theorem followed_lt (hline : line < lineCount) (htotal : 0 < total) :
    line * total / max lineCount 1 < total := by
  apply Nat.div_lt_of_lt_mul
  apply Nat.mul_lt_mul_of_pos_right _ htotal
  omega

/-- The window does not go further than the page. -/
theorem followScroll_le (line lineCount total rows : Nat) :
    followScroll line lineCount total rows ≤ total - rows := Nat.min_le_right _ _

/-- The row that is followed is in the window: half a window above it, or where the page ends
before that, as far up as the end of the page allows. -/
theorem followScroll_window (hline : line < lineCount) (hrows : 0 < rows) :
    followScroll line lineCount total rows ≤ line * total / max lineCount 1 ∧
      line * total / max lineCount 1 < followScroll line lineCount total rows + rows := by
  unfold followScroll
  by_cases htotal : total = 0
  · subst htotal
    rw [Nat.mul_zero, Nat.zero_div]
    omega
  · -- all that the window needs to know of the row is that the page has it
    have hrow := followed_lt hline (Nat.pos_of_ne_zero htotal)
    generalize line * total / max lineCount 1 = row at hrow ⊢
    omega

/-- Further down the text, the window is not further up the page. -/
theorem followScroll_mono (hline : line ≤ line') (lineCount total rows : Nat) :
    followScroll line lineCount total rows ≤ followScroll line' lineCount total rows := by
  have hrow : line * total / max lineCount 1 ≤ line' * total / max lineCount 1 :=
    Nat.div_le_div_right (Nat.mul_le_mul_right total hline)
  unfold followScroll
  omega

end Window

/-! ## 3. The caret -/

/-- The line of the caret is one of the text, whatever the caret is. -/
theorem caretLine_lt (e : Editor) : e.caretLine < Editing.lineCount e.source :=
  e.caret.line_lt e.source

/-- A caret whose line is in the window has a cell in the pane: on an inner row, and behind the
left border. A line that is too wide for the pane does not take it over the right border. -/
theorem exists_caretCell {layout : Layout} {e : Editor} (hmode : e.mode = .insert)
    (hwidth : 3 ≤ layout.editor.width) (hheight : 3 ≤ layout.editor.height)
    (hright : layout.editor.x + layout.editor.width ≤ limit)
    (hbottom : layout.editor.y + layout.editor.height ≤ limit)
    (habove : e.editorScroll ≤ e.caretLine)
    (hbelow : e.caretLine < e.editorScroll + layout.editor.innerSize.2) :
    ∃ x y, e.caretCell? layout = some (x, y) ∧
      layout.editor.x < x ∧ x < layout.editor.x + layout.editor.width ∧
      layout.editor.y < y ∧ y + 1 < layout.editor.y + layout.editor.height := by
  -- three cells leave one inside the border
  have hinner : layout.editor.innerSize = (layout.editor.width - 2, layout.editor.height - 2) := by
    rw [Rect.innerSize, Nat.max_eq_left (by omega), Nat.max_eq_left (by omega)]
  rw [hinner] at hbelow
  unfold caretCell?
  simp only [hinner]
  rw [if_pos ⟨hmode, habove, by omega⟩]
  refine ⟨_, _, rfl, ?_⟩
  simp only [cap]
  omega

/-- **The caret is on the screen.** Scrolled to the caret, the editor has its line in the window,
and has left the window alone if the line was there. While text is typed, the caret has a cell:
on one of the rows inside the border of the pane, and between its left and right edge, however
wide the characters are. -/
theorem showCaret_onScreen (layout : Layout) (e : Editor)
    (hwidth : 3 ≤ layout.editor.width) (hheight : 3 ≤ layout.editor.height)
    (hright : layout.editor.x + layout.editor.width ≤ limit)
    (hbottom : layout.editor.y + layout.editor.height ≤ limit) :
    let rows := layout.editor.innerSize.2
    let shown := e.showCaret rows
    shown.editorScroll ≤ shown.caretLine ∧
    shown.caretLine < shown.editorScroll + rows ∧
    (e.mode = .insert → ∃ x y, shown.caretCell? layout = some (x, y) ∧
      layout.editor.x < x ∧ x < layout.editor.x + layout.editor.width ∧
      layout.editor.y < y ∧ y + 1 < layout.editor.y + layout.editor.height) ∧
    (e.editorScroll ≤ e.caretLine → e.caretLine < e.editorScroll + rows →
      shown.editorScroll = e.editorScroll) := by
  intro rows shown
  have hrows : 0 < rows := Nat.le_max_right _ 1
  -- the cell is found on the row that the window leaves for the line
  obtain ⟨habove, hbelow⟩ := scrollTo_window e.caretLine e.editorScroll hrows
  refine ⟨habove, hbelow, ?_, ?_⟩
  · intro hmode
    exact exists_caretCell hmode hwidth hheight hright hbottom habove hbelow
  · intro hover hunder
    exact scrollTo_eq_self hover hunder

/-- Lines of digits and one of ideographs, in which the caret is. -/
def wideEditor : Editor :=
  { firstEditor with
    content := { firstEditor.content with
      source := "1\n2\n3\n4\n\u4E2D\u6587\u4E2D\u6587\u4E2D\u6587\n6\n7" }
    caret := .ofPlace 13
    editorScroll := 1 }

/-- Twelve columns of text do not fit in a pane of eight; the last line but two becomes the last
row. -/
theorem showCaret_onScreen_wide :
    let layout := Screen.layout true 20 5
    let rows := layout.editor.innerSize.2
    let shown := wideEditor.showCaret rows
    layout.editor = ⟨0, 0, 10, 4⟩ ∧ wideEditor.mode = .insert ∧ wideEditor.caretLine = 4 ∧
      shown.editorScroll = 3 ∧ shown.caretLine < shown.editorScroll + rows ∧
      ∃ x y, shown.caretCell? layout = some (x, y) ∧
        layout.editor.x < x ∧ x < layout.editor.x + layout.editor.width ∧
        layout.editor.y < y ∧ y + 1 < layout.editor.y + layout.editor.height := by
  intro layout rows shown
  have hpane : layout.editor = ⟨0, 0, 10, 4⟩ := by decide +kernel
  have hmode : wideEditor.mode = .insert := by decide +kernel
  obtain ⟨-, hbelow, hcell, -⟩ := showCaret_onScreen layout wideEditor (by rw [hpane]; decide)
    (by rw [hpane]; decide) (by rw [hpane]; decide) (by rw [hpane]; decide)
  exact ⟨hpane, hmode, by decide +kernel, by decide +kernel, hbelow, hcell hmode⟩

/-- **Every picture shows the caret** while text is typed, on a terminal that has room for a pane
of three columns and three rows. -/
theorem prepare_onScreen (e : Editor) {size : Nat × Nat} (hmode : e.mode = .insert)
    (hsize : size.1 ≤ limit ∧ size.2 ≤ limit) (hwidth : 3 ≤ (e.layout size).editor.width)
    (hheight : 3 ≤ (e.layout size).editor.height) :
    ∃ x y, (e.prepare size).caretCell? ((e.prepare size).layout size) = some (x, y) ∧
      (e.layout size).editor.x < x ∧
      x < (e.layout size).editor.x + (e.layout size).editor.width ∧
      (e.layout size).editor.y < y ∧
      y + 1 < (e.layout size).editor.y + (e.layout size).editor.height := by
  obtain ⟨hright, hbottom⟩ :=
    Screen.editor_edges e.settings.referenceCollapsed hsize.1 hsize.2
  -- the preview is drawn first, and has no part in this
  obtain ⟨preview, stale, hrefresh⟩ := exists_refreshPreview_eq e
  have hrows : 0 < (e.layout size).editor.innerSize.2 := Nat.le_max_right _ 1
  obtain ⟨habove, hbelow⟩ := scrollTo_window e.caretLine e.editorScroll hrows
  unfold prepare
  rw [hrefresh]
  exact exists_caretCell hmode hwidth hheight hright hbottom habove hbelow

/-! ## 4. The preview -/

/-- **The preview follows the caret.** The window stays within the page and has the row in it that
is as far down the page as the caret's line is down the text. With the same text and the same
page, a caret further down does not move the window up. -/
theorem followCaret_window (e e' : Editor) (columns : Nat) {rows : Nat} (hrows : 1 ≤ rows)
    (hsource : e'.source = e.source) (hpreview : e'.preview = e.preview)
    (hline : e.caretLine ≤ e'.caretLine) :
    let total := Screen.wrappedRows e.preview columns
    let target := e.caretLine * total / Editing.lineCount e.source
    let scroll := (e.followCaret columns rows).previewScroll
    scroll ≤ total - rows ∧
    scroll ≤ target ∧ target < scroll + rows ∧
    scroll ≤ (e'.followCaret columns rows).previewScroll := by
  intro total target scroll
  have hlt := e.caretLine_lt
  -- a page has lines, so the quotient is never one by zero
  have htarget : target = e.caretLine * total / max (Editing.lineCount e.source) 1 := by
    rw [Nat.max_eq_left (by omega)]
  obtain ⟨habove, hbelow⟩ : scroll ≤ target ∧ target < scroll + rows := by
    rw [htarget]
    exact followScroll_window hlt hrows
  have hmono := followScroll_mono hline (Editing.lineCount e.source) total rows
  refine ⟨followScroll_le _ _ _ _, habove, hbelow, ?_⟩
  simp only [followCaret, hsource, hpreview]
  exact hmono

/-- A page of one word and of two, and a text of three lines. -/
def pagedEditor (place : Nat) : Editor :=
  { firstEditor with
    content := { firstEditor.content with source := "one\ntwo\nthree" }
    preview := ["<h2>one</h2>", "<p>two", "three</p>"]
    caret := .ofPlace place }

/-- In six columns the page has five rows, of which three are shown. The second row is followed
from the second line, and stays in the window that is put around it. -/
theorem followCaret_window_paged :
    (pagedEditor 9).source = (pagedEditor 5).source ∧
      (pagedEditor 9).preview = (pagedEditor 5).preview ∧
      (pagedEditor 5).caretLine = 1 ∧ (pagedEditor 9).caretLine = 2 ∧
      Screen.wrappedRows (pagedEditor 5).preview 6 = 5 ∧
      ((pagedEditor 5).followCaret 6 3).previewScroll ≤ 5 - 3 ∧
      ((pagedEditor 5).followCaret 6 3).previewScroll ≤ 1 * 5 / 3 ∧
      1 * 5 / 3 < ((pagedEditor 5).followCaret 6 3).previewScroll + 3 ∧
      ((pagedEditor 5).followCaret 6 3).previewScroll ≤
        ((pagedEditor 9).followCaret 6 3).previewScroll := by
  -- the pane is smaller than the preview, so that the bound from the last page is met
  have hline : (pagedEditor 5).caretLine = 1 ∧ (pagedEditor 9).caretLine = 2 := by decide +kernel
  have htotal : Screen.wrappedRows (pagedEditor 5).preview 6 = 5 := by decide +kernel
  have hcount : Editing.lineCount (pagedEditor 5).source = 3 := by decide +kernel
  have hrows : 1 ≤ 3 := by decide
  obtain ⟨hpage, habove, hbelow, hmono⟩ :=
    followCaret_window (pagedEditor 5) (pagedEditor 9) 6 hrows rfl rfl (by omega)
  rw [htotal] at hpage
  rw [htotal, hcount, hline.1] at habove hbelow
  exact ⟨rfl, rfl, hline.1, hline.2, htotal, hpage, habove, hbelow, hmono⟩

end MarkupDesk.Editor
