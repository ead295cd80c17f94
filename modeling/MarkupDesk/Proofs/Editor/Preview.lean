/-
`Proofs/Editor/Preview.lean` -- the preview shows the page as it is.

The lines of the page are kept until something is done that may change the page; they are said
to be stale then, and they are made anew before they are shown. So whenever they are not said to
be stale they are those of the page (`Run.drawn`): a key that edits the content says so, and
everything else keeps to it as well (`Redrawn`).

A line is shown in pieces, each in its own colours. Where a line is cut does not matter
(`shownLines_eq`).
-/
import MarkupDesk.Proofs.Editor.Display
import MarkupDesk.Proofs.Editor.Run
import MarkupDesk.Proofs.Page
import MarkupDesk.Proofs.Text.Trim

set_option autoImplicit false

namespace MarkupDesk.Editor

open Drafts (Draft)
open MarkupDesk.Task (Ends)

/-! ## 1. Lines -/

/-- The lines of a text, each with the line feed that ends it. -/
def endedLines : Text → List Text
  | [] => []
  | c :: rest =>
    if c = '\n' then ['\n'] :: endedLines rest
    else
      match endedLines rest with
      | [] => [[c]]
      | line :: lines => (c :: line) :: lines

/-- A text without the line feeds at its end. -/
def withoutFeed (t : Text) : Text := Text.dropEndWhile (· == '\n') t

/-- The texts of lines that are shown in pieces; no line at all is shown as an empty one. -/
def shownLines (pieces : List (List Text)) : List Text :=
  if pieces.isEmpty then [[]] else pieces.map fun spans => (spans.map withoutFeed).flatten

/-- A text without line feeds stands in front of what is dropped at the end. -/
theorem withoutFeed_of_notMem {t : Text} (h : '\n' ∉ t) (rest : Text) :
    withoutFeed (t ++ rest) = t ++ withoutFeed rest := by
  refine Text.dropEndWhile_append_of_not (fun c hc => ?_) rest
  rw [beq_eq_false_iff_ne]
  rintro rfl
  exact h hc

/-- Only the empty text has no lines. -/
theorem endedLines_eq_nil_iff (t : Text) : endedLines t = [] ↔ t = [] := by
  cases t with
  | nil => exact ⟨fun _ => rfl, fun _ => rfl⟩
  | cons c rest =>
    rw [endedLines]
    split
    · simp
    · split <;> simp

/-- The lines, each with its end, make up the text again. -/
theorem flatten_endedLines (t : Text) : (endedLines t).flatten = t := by
  induction t with
  | nil => rfl
  | cons c rest ih =>
    rw [endedLines]
    split
    next hc => rw [List.flatten_cons, ih, hc, List.singleton_append]
    next =>
      split
      next hnil =>
        rw [(endedLines_eq_nil_iff rest).1 hnil]
        rfl
      next line lines hlines =>
        rw [hlines] at ih
        rw [List.flatten_cons, List.cons_append, ← List.flatten_cons, ih]

/-- A line has something in it, and a line feed at its end only. -/
theorem line_of_mem {t line : Text} (h : line ∈ endedLines t) : line ≠ [] ∧ '\n' ∉ line.dropLast := by
  induction t generalizing line with
  | nil => cases h
  | cons c rest ih =>
    rw [endedLines] at h
    split at h
    · rcases List.mem_cons.1 h with rfl | h
      · exact ⟨List.cons_ne_nil _ _, List.not_mem_nil⟩
      · exact ih h
    next hc =>
      split at h
      · rw [List.mem_singleton.1 h]
        exact ⟨List.cons_ne_nil _ _, List.not_mem_nil⟩
      -- the character goes in front of the first line of the rest, which ends where it did
      next first lines hlines =>
        rcases List.mem_cons.1 h with rfl | h
        · obtain ⟨hne, hfirst⟩ := ih (hlines ▸ List.mem_cons_self)
          rw [List.dropLast_cons_of_ne_nil hne]
          exact ⟨List.cons_ne_nil _ _, List.not_mem_cons_of_ne_of_not_mem (Ne.symm hc) hfirst⟩
        · exact ih (hlines ▸ List.mem_cons_of_mem _ h)

/-- Cutting at line feeds leaves an empty piece behind the last one. -/
theorem splitOn_eq (t : Text) :
    Text.splitOn '\n' t = (endedLines t).map withoutFeed ++
      (if t = [] ∨ t.getLast? = some '\n' then [[]] else []) := by
  induction t with
  | nil => rfl
  | cons c rest ih =>
    rw [Text.splitOn, endedLines]
    by_cases hc : c = '\n'
    · have hlast : (c :: rest = [] ∨ (c :: rest).getLast? = some '\n') ↔
          (rest = [] ∨ rest.getLast? = some '\n') := by
        cases rest with
        | nil => simp [hc]
        | cons x rest => simp [List.getLast?_cons_cons]
      have hfeed : withoutFeed ['\n'] = [] := rfl
      rw [if_pos hc, if_pos hc, ih, List.map_cons, List.cons_append, hfeed]
      simp only [hlast]
    · rw [if_neg hc, if_neg hc, ih]
      cases hlines : endedLines rest with
      | nil =>
        -- the character ends the text
        obtain rfl := (endedLines_eq_nil_iff rest).1 hlines
        have hplain : withoutFeed [c] = [c] := withoutFeed_of_notMem (t := [c]) (by simp [Ne.symm hc]) []
        simp [hplain, hc]
      | cons line lines =>
        obtain ⟨x, behind, rfl⟩ : ∃ x behind, rest = x :: behind := by
          cases rest with
          | nil => cases hlines
          | cons x behind => exact ⟨x, behind, rfl⟩
        have hgrown : withoutFeed (c :: line) = c :: withoutFeed line :=
          withoutFeed_of_notMem (t := [c]) (by simp [Ne.symm hc]) line
        simp [hgrown, List.getLast?_cons_cons]

/-- The last line ends as the text does. -/
theorem withoutFeed_ne_nil {t line : Text} {lines : List Text}
    (h : endedLines t = lines ++ [line]) (hline : line ≠ []) (hlast : t.getLast? ≠ some '\n') :
    withoutFeed line ≠ [] := by
  obtain ⟨front, c, rfl⟩ := (List.eq_nil_or_concat' line).resolve_left hline
  have htext : t = lines.flatten ++ (front ++ [c]) := by
    rw [← flatten_endedLines t, h, List.flatten_append, List.flatten_singleton]
  rw [htext, ← List.append_assoc, List.getLast?_concat, Ne, Option.some.injEq] at hlast
  have hplain : (c == '\n') = false := beq_eq_false_iff_ne.2 hlast
  rw [withoutFeed, Text.dropEndWhile, List.reverse_append, List.reverse_singleton,
    List.singleton_append, List.dropWhile_cons, if_neg (by simp [hplain])]
  simp

/-- The lines of a page are those that its line feeds end, and what is behind the last of them. -/
theorem pageLines_eq (page : Text) :
    pageLines page = if page = [] then [[]] else (endedLines page).map withoutFeed := by
  by_cases hempty : page = []
  · subst hempty
    rfl
  obtain ⟨lines, line, hlines⟩ := (List.eq_nil_or_concat' (endedLines page)).resolve_left
    (mt (endedLines_eq_nil_iff page).1 hempty)
  have hne : line ≠ [] :=
    (line_of_mem (hlines ▸ List.mem_append_right _ List.mem_cons_self)).1
  unfold pageLines
  rw [if_neg hempty, splitOn_eq, hlines]
  by_cases hlast : page.getLast? = some '\n'
  · -- the empty piece behind the last line feed is no line
    rw [if_pos (.inr hlast)]
    simp
  · have hshown := withoutFeed_ne_nil hlines hne hlast
    rw [if_neg (not_or.2 ⟨hempty, hlast⟩)]
    simp [hshown]

/-- The line feed is that of the last piece. -/
theorem flatten_withoutFeed {spans : List Text} (h : '\n' ∉ spans.flatten.dropLast) :
    (spans.map withoutFeed).flatten = withoutFeed spans.flatten := by
  induction spans with
  | nil => rfl
  | cons span spans ih =>
    rw [List.map_cons, List.flatten_cons, List.flatten_cons]
    -- a span loses its feed only if it is the last one with any text
    by_cases hrest : spans.flatten = []
    · rw [ih (by simp [hrest]), hrest]
      simp [withoutFeed, Text.dropEndWhile]
    · rw [List.flatten_cons, List.dropLast_append_of_ne_nil hrest] at h
      obtain ⟨hspan, hbehind⟩ := not_or.1 (mt List.mem_append.2 h)
      rw [ih hbehind, withoutFeed_of_notMem hspan]
      have hplain := withoutFeed_of_notMem hspan []
      rw [List.append_nil] at hplain
      rw [hplain]
      simp [withoutFeed, Text.dropEndWhile]

/-- **Wherever the lines are cut**, what is shown are the lines of the page. -/
theorem shownLines_eq {page : Text} {pieces : List (List Text)}
    (h : pieces.map List.flatten = endedLines page) : shownLines pieces = pageLines page := by
  have hempty : pieces.isEmpty = true ↔ page = [] := by
    rw [List.isEmpty_iff, ← endedLines_eq_nil_iff, ← h, List.map_eq_nil_iff]
  rw [pageLines_eq, shownLines]
  simp only [hempty]
  split
  · rfl
  · rw [← h, List.map_map]
    refine List.map_congr_left fun spans hspans => flatten_withoutFeed ?_
    exact (line_of_mem (h ▸ List.mem_map_of_mem hspans)).2

/-! ## 2. Keys -/

variable {e e' : Editor} {s : Session} {ticks : Nat} {rules : Rules} {log : List Step}

/-- **A key for the text** leaves the lines right, or says that the page has to be made anew. -/
theorem Stroke.keeps {code : KeyCode} (h : Stroke ticks code e e') : KeepsDrawing e e' := by
  cases h with
  | moved | begun => exact .of_same rfl rfl
  | replaced => exact .of_stale rfl

/-- A key in insert mode says that the page is stale, or changes nothing that the page is made
of. -/
theorem insertKey_keeps (rows : Nat) (key : Key) (e : Editor) (s : Session) :
    KeepsDrawing e ((e.insertKey rows key).run s).1 := by
  rcases insertKey_cases rows key e s with
    ⟨popup, e', -, hkey, hrun⟩ | ⟨-, ⟨-, hrun⟩ | ⟨-, hrun⟩⟩
  · rw [hrun]
    exact (popupKey?_stroke hkey).keeps
  · rw [hrun]
    exact (controlKey_redrawn key.code e s).drawing
  · rw [hrun]
    exact (plainKey_stroke _ rows key.code e).keeps

/-! ## 3. The page -/

/-- The lines are those of the page, unless they are said to be stale. -/
def Drawn (e : Editor) : Prop := e.previewStale = false → e.preview = pageLines e.page

/-- Whatever keeps the drawing keeps the lines of the page right. -/
theorem Drawn.keep (h : Drawn e) (hkeeps : KeepsDrawing e e') : Drawn e' := by
  intro hfresh
  obtain ⟨hbefore, hsame⟩ := hkeeps hfresh
  obtain ⟨hpreset, hcontent, hpreview⟩ := Drawing.mk.inj hsame
  rw [hpreview, page, hpreset, hcontent]
  exact h hbefore

/-- **The lines that are made** before anything is shown are those of the page. -/
theorem Drawn.refreshed (h : Drawn e) :
    e.refreshPreview.preview = pageLines e.page ∧ e.refreshPreview.page = e.page := by
  unfold refreshPreview
  by_cases hstale : e.previewStale = true
  · rw [if_pos hstale]
    exact ⟨rfl, rfl⟩
  · rw [if_neg hstale]
    exact ⟨h (Bool.eq_false_iff.2 hstale), rfl⟩

/-- **A step keeps the lines right.** -/
theorem Event.drawn_run (event : Event) (h : Drawn e) (s : Session) :
    Drawn ((event.run e).run s).1 := by
  cases event with
  -- drawing makes the page anew, so it is fresh whatever it was
  | prepare size => exact fun _ => h.refreshed.1.trans (congrArg pageLines h.refreshed.2.symm)
  | leave => exact h.keep (saveNow_ran e s).redrawn.drawing
  | command command => exact h.keep (execute_redrawn command e s).drawing
  | autosave =>
    rw [Event.run, savePending_run]
    split
    · exact h.keep (saveNow_ran e s).redrawn.drawing
    · exact h
  | key rows key =>
    rw [run_key]
    split
    · exact h.keep (insertKey_keeps rows key e s)
    · exact h.keep (commandKey_redrawn key e s).drawing
    · exact h.keep (pickerKey_redrawn key e s).drawing

/-- **The lines are right in every run.** -/
theorem Run.drawn (h : Run rules log s e) : Drawn e := by
  induction h with
  | start _ hends =>
    obtain ⟨preset, _, -, -, he⟩ := start_ends hends
    rw [he]
    exact fun hfresh => absurd hfresh Bool.noConfusion
  | step _ _ event _ ih => exact event.drawn_run ih _
  | pass _ _ ih => exact ih

/-! ## 4. The file of the page -/

/-- When it is told that the page was written, it is in the file that is told of. -/
theorem writePage_exported {directory path : Path}
    (h : ((e.writePage directory).run s).1.notice = some (.pageWritten path)) :
    path = Path.join directory (Page.exportName e.content.filename) ∧
      Ends (Page.exportTo directory e.content.filename e.page) s (.ok path)
        ((e.writePage directory).run s).2 := by
  have hrun : (e.writePage directory).run s = _ := Session.run_bind _ _ s
  cases hends : (Page.exportTo directory e.content.filename e.page).run.run s with
  | mk result after =>
    rw [hends] at hrun
    rw [hrun] at h ⊢
    cases result with
    -- a failure is told in another way
    | error cause => cases h
    | ok other =>
      have hpath : other = path := Notice.pageWritten.inj (Option.some.inj h)
      rw [hpath] at hends
      exact ⟨(Page.exportTo_ok hends).1, hends⟩

/-- In insert mode the key that writes the page is not one for the popup. -/
theorem handle_pageKey (hmode : e.mode = .insert) (rows : Nat) (s : Session) :
    (e.handle rows ⟨.char 'e', true⟩).run s = (e.writePage ['.']).run s := by
  have hnone : (e.popup.bind fun popup => e.popupKey? s.ticks (.char 'e') popup) = none := by
    cases e.popup <;> rfl
  unfold handle
  rw [hmode]
  simp only
  rw [insertKey_run]
  simp only [hnone, if_true]
  rfl

end MarkupDesk.Editor
