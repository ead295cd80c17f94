/-
`Proofs/Markup/LineRuns.lean` -- blocks are runs of lines.

The blocks of a document are found by looking for line feeds with nothing but white space
between them, taken as long as possible. A reader sees lines: a block is a run of lines that
are not blank, as long as possible, whatever stands around it. Both are the same
(`segment_lines`).

A blank line at the beginning goes with the white space that is trimmed off
(`pieces_blank_line`). Between the lines of a run no separator begins, because the line behind
each of its line feeds is not blank (`splitAtBlankLines_run`). Behind a run stands a blank line
or nothing, and either way the rest of the text has its pieces apart (`pieces_run`).
-/
import Mathlib.Data.List.Forall2
import MarkupDesk.Proofs.Markup.BlankLines
import MarkupDesk.Proofs.Text.Pieces
import MarkupDesk.Proofs.Text.Search

set_option autoImplicit false

namespace MarkupDesk.Markup

open Text (AllBlank isBlank trim trimEnd join splitOn)

/-! ## 1. Runs -/

section

variable {α : Type} {blank : α → Prop} {x : α} {l run rest : List α} {runs : List (List α)}

/-- The runs of a list: its elements that are not blank, in stretches as long as possible. Behind
a stretch stands a blank element or nothing, so no stretch could be longer. -/
inductive RunsOf (blank : α → Prop) : List α → List (List α) → Prop where
  | nil : RunsOf blank [] []
  | blank {x : α} {l : List α} {runs : List (List α)} (hx : blank x) (h : RunsOf blank l runs) :
    RunsOf blank (x :: l) runs
  | run {run rest : List α} {runs : List (List α)} (hne : run ≠ []) (hrun : ∀ x ∈ run, ¬ blank x)
    (hends : ∀ x ∈ rest.head?, blank x) (h : RunsOf blank rest runs) :
    RunsOf blank (run ++ rest) (run :: runs)

namespace RunsOf

/-- What begins with a blank element has the runs of what follows. -/
theorem of_blank (h : RunsOf blank (x :: l) runs) (hx : blank x) : RunsOf blank l runs := by
  generalize hwhole : x :: l = whole at h
  cases h with
  | nil => exact absurd hwhole (List.cons_ne_nil x l)
  | blank _ h =>
    obtain ⟨-, rfl⟩ := List.cons.inj hwhole
    exact h
  | run hne hrun _ _ =>
    obtain ⟨first, more, rfl⟩ := List.exists_cons_of_ne_nil hne
    obtain ⟨rfl, -⟩ := List.cons.inj hwhole
    exact absurd hx (hrun x List.mem_cons_self)

/-- What begins with another element begins with a run. -/
theorem of_not_blank (h : RunsOf blank (x :: l) runs) (hx : ¬ blank x) :
    ∃ run rest others, x :: l = run ++ rest ∧ run ≠ [] ∧ (∀ y ∈ run, ¬ blank y) ∧
      (∀ y ∈ rest.head?, blank y) ∧ RunsOf blank rest others ∧ runs = run :: others := by
  generalize hwhole : x :: l = whole at h
  cases h with
  | nil => exact absurd hwhole (List.cons_ne_nil x l)
  | blank hblank _ =>
    obtain ⟨rfl, -⟩ := List.cons.inj hwhole
    exact absurd hblank hx
  | run hne hrun hends h => exact ⟨_, _, _, rfl, hne, hrun, hends, h, rfl⟩

/-- A stretch goes on with nothing where a blank element or nothing follows. -/
theorem eq_nil_of_ends {more : List α} (hmore : ∀ y ∈ more, ¬ blank y)
    (hends : ∀ y ∈ (more ++ rest).head?, blank y) : more = [] := by
  by_contra hne
  obtain ⟨y, others, rfl⟩ := List.exists_cons_of_ne_nil hne
  exact hmore y List.mem_cons_self (hends y rfl)

/-- A list begins with one stretch as long as possible. -/
theorem stretch_unique {run' rest' : List α} (hrun : ∀ y ∈ run, ¬ blank y)
    (hends : ∀ y ∈ rest.head?, blank y) (hrun' : ∀ y ∈ run', ¬ blank y)
    (hends' : ∀ y ∈ rest'.head?, blank y) (h : run ++ rest = run' ++ rest') :
    run = run' ∧ rest = rest' := by
  -- one of the two begins with the other, and what it goes on with ends the other
  rcases List.append_eq_append_iff.1 h with ⟨more, rfl, rfl⟩ | ⟨more, rfl, rfl⟩
  · obtain rfl := eq_nil_of_ends (fun y hy => hrun' y (List.mem_append_right run hy)) hends
    exact ⟨(List.append_nil run).symm, rfl⟩
  · obtain rfl := eq_nil_of_ends (fun y hy => hrun y (List.mem_append_right run' hy)) hends'
    exact ⟨List.append_nil run', rfl⟩

/-- **A list has its runs in one way.** -/
theorem unique {runs' : List (List α)} (h : RunsOf blank l runs) (h' : RunsOf blank l runs') :
    runs' = runs := by
  induction h generalizing runs' with
  | nil =>
    -- only the empty list has no run and nothing to skip
    generalize hwhole : ([] : List α) = whole at h'
    cases h' with
    | nil => rfl
    | blank _ _ => exact absurd hwhole.symm (List.cons_ne_nil _ _)
    | run hne _ _ _ => exact absurd (List.append_eq_nil_iff.1 hwhole.symm).1 hne
  | blank hx _ ih => exact ih (h'.of_blank hx)
  | @run run rest runs hne hrun hends _ ih =>
    obtain ⟨x, more, rfl⟩ := List.exists_cons_of_ne_nil hne
    have hx : ¬ blank x := hrun x List.mem_cons_self
    obtain ⟨run', rest', others, hwhole, -, hrun', hends', hothers, rfl⟩ := of_not_blank h' hx
    obtain ⟨hsame, rfl⟩ := stretch_unique hrun hends hrun' hends' hwhole
    rw [← hsame, ih hothers]

end RunsOf

/-- Every list has its runs. The induction goes from the end: an element that is not blank is
put in front of the run behind it, if there is one, and is a run of its own otherwise. -/
theorem exists_runsOf (blank : α → Prop) (l : List α) : ∃ runs, RunsOf blank l runs := by
  induction l with
  | nil => exact ⟨[], .nil⟩
  | cons x l ih =>
    obtain ⟨runs, hruns⟩ := ih
    by_cases hx : blank x
    · exact ⟨runs, .blank hx hruns⟩
    have hsingle : ∀ y ∈ [x], ¬ blank y := fun y hy => List.mem_singleton.1 hy ▸ hx
    cases l with
    | nil => exact ⟨[x] :: runs, .run (List.cons_ne_nil x []) hsingle (by simp) hruns⟩
    | cons next l =>
      by_cases hnext : blank next
      · refine ⟨[x] :: runs, .run (List.cons_ne_nil x []) hsingle (fun y hy => ?_) hruns⟩
        rw [← Option.some.inj hy]
        exact hnext
      · -- the element is the first one of the run behind it
        obtain ⟨run, rest, others, hwhole, -, hrun, hends, hothers, rfl⟩ := hruns.of_not_blank hnext
        rw [hwhole]
        refine ⟨(x :: run) :: others, .run (List.cons_ne_nil x run) (fun y hy => ?_) hends hothers⟩
        rcases List.mem_cons.1 hy with rfl | hy
        · exact hx
        · exact hrun y hy

end

/-! ## 2. The pieces of lines -/

/-- None of the lines has a line feed in it. -/
def AreLines (lines : List Text) : Prop := ∀ line ∈ lines, '\n' ∉ line

theorem areLines_splitOn (t : Text) : AreLines (splitOn '\n' t) :=
  fun _ hline => Text.notMem_of_mem_splitOn hline

/-- A blank line in front of lines changes none of their pieces. -/
theorem pieces_blank_line {line : Text} (h : AllBlank line) (lines : List Text) :
    pieces (join ['\n'] (line :: lines)) = pieces (join ['\n'] lines) := by
  by_cases hlines : lines = []
  · rw [hlines, Text.join_singleton, pieces_of_allBlank h]
    exact pieces_nil.symm
  · have hblank : AllBlank (line ++ ['\n']) := h.append (by decide)
    have hsplit : line ++ '\n' :: join ['\n'] lines = (line ++ ['\n']) ++ join ['\n'] lines := by
      simp
    rw [Text.join_cons '\n' line hlines, hsplit, pieces_append_left hblank]

/-- No separator ends in front of a line that is not blank. -/
theorem blankTail?_join {line : Text} (hline : '\n' ∉ line) (hfilled : ¬ AllBlank line)
    (lines : List Text) : blankTail? (join ['\n'] (line :: lines)) = none := by
  by_cases hlines : lines = []
  · rw [hlines, Text.join_singleton, blankTail?_of_line hline]
  · rw [Text.join_cons '\n' line hlines, blankTail?_append_of_not_allBlank hfilled,
      blankTail?_of_line hline, Option.map_none]

/-- **Lines that are not blank are not cut apart.** -/
theorem splitAtBlankLines_run {run : List Text} (hne : run ≠ []) (hlines : AreLines run)
    (hrun : ∀ line ∈ run, ¬ AllBlank line) :
    splitAtBlankLines (join ['\n'] run) = [join ['\n'] run] := by
  induction run with
  | nil => exact absurd rfl hne
  | cons line run ih =>
    obtain ⟨hline, hlines⟩ := List.forall_mem_cons.1 hlines
    obtain ⟨-, hrun⟩ := List.forall_mem_cons.1 hrun
    cases run with
    | nil => rw [Text.join_singleton, splitAtBlankLines_of_line hline]
    | cons next run =>
      have hnext : blankTail? (join ['\n'] (next :: run)) = none :=
        blankTail?_join (hlines next List.mem_cons_self) (hrun next List.mem_cons_self) run
      have hwhole := ih (List.cons_ne_nil next run) hlines hrun
      rw [splitAtBlankLines_eq] at hwhole
      obtain ⟨hfirst, hlater⟩ := List.cons.inj hwhole
      rw [Text.join_cons '\n' line (List.cons_ne_nil next run),
        splitAtBlankLines_filled hline hnext, hfirst, hlater]

/-- The lines of a run are one piece. -/
theorem pieces_of_run {run : List Text} (hne : run ≠ []) (hlines : AreLines run)
    (hrun : ∀ line ∈ run, ¬ AllBlank line) :
    pieces (join ['\n'] run) = [trim (join ['\n'] run)] := by
  -- a blank run would have a blank first line
  have hfilled : trim (join ['\n'] run) ≠ [] := by
    rw [Ne, Text.trim_eq_nil_iff]
    intro hblank
    obtain ⟨line, others, rfl⟩ := List.exists_cons_of_ne_nil hne
    refine hrun line List.mem_cons_self fun c hc => hblank c ?_
    by_cases hothers : others = []
    · rw [hothers, Text.join_singleton]
      exact hc
    · rw [Text.join_cons '\n' line hothers]
      exact List.mem_append_left _ hc
  rw [pieces, splitAtBlankLines_run hne hlines hrun, trimmed, List.map_singleton]
  simp [hfilled]

/-- **Behind a run the text is cut.** -/
theorem pieces_run {run rest : List Text} (hne : run ≠ []) (hlines : AreLines run)
    (hrun : ∀ line ∈ run, ¬ AllBlank line) (hends : ∀ line ∈ rest.head?, AllBlank line) :
    pieces (join ['\n'] (run ++ rest)) = trim (join ['\n'] run) :: pieces (join ['\n'] rest) := by
  have hone : pieces (join ['\n'] run) = [trim (join ['\n'] run)] := pieces_of_run hne hlines hrun
  cases rest with
  | nil =>
    have hnil : pieces (join ['\n'] []) = [] := pieces_nil
    rw [List.append_nil, hone, hnil]
  | cons blank others =>
    have hblank : AllBlank blank := hends blank rfl
    rw [Text.join_append '\n' hne (List.cons_ne_nil blank others), pieces_blank_line hblank]
    by_cases hothers : others = []
    · -- the blank line ends the text, so there is a line feed in front of it only
      have hnil : pieces (join ['\n'] []) = [] := pieces_nil
      have hwhite : AllBlank ('\n' :: blank) := .cons (by decide) hblank
      rw [hothers, Text.join_singleton, pieces_append_right hwhite, hone, hnil]
    · rw [Text.join_cons '\n' blank hothers, pieces_append_separator hblank, hone,
        List.singleton_append]

/-- **The pieces of a text are the runs of its lines**, each joined and trimmed. -/
theorem pieces_join {lines : List Text} {runs : List (List Text)} (h : RunsOf AllBlank lines runs)
    (hlines : AreLines lines) :
    pieces (join ['\n'] lines) = runs.map fun run => trim (join ['\n'] run) := by
  induction h with
  | nil => exact pieces_nil
  | blank hblank _ ih =>
    obtain ⟨-, hlines⟩ := List.forall_mem_cons.1 hlines
    rw [pieces_blank_line hblank, ih hlines]
  | run hne hrun hends _ ih =>
    obtain ⟨hfirst, hrest⟩ := List.forall_mem_append.1 hlines
    rw [pieces_run hne hfirst hrun hends, ih hrest, List.map_cons]

/-! ## 3. Blocks -/

/-- The block has this source: it is a heading if headings are on and the source begins with the
mark of one, else a paragraph, and there is something in it. -/
def Block.HasSource (headings : Bool) (source : Text) : Block → Prop
  | .heading title =>
    headings = true ∧ title ≠ [] ∧ ∃ rest, source = headingMark ++ rest ∧ title = trim rest
  | .paragraph body => ¬ (headings = true ∧ headingMark <+: source) ∧ body ≠ [] ∧ body = source

theorem mem_pieces {t piece : Text} (h : piece ∈ pieces t) : trim piece = piece ∧ piece ≠ [] := by
  obtain ⟨hmem, hne⟩ := List.mem_filter.1 h
  obtain ⟨whole, -, rfl⟩ := List.mem_map.1 hmem
  exact ⟨Text.trim_trim whole, by simpa using hne⟩

/-- Behind the mark of a heading a trimmed text goes on. -/
theorem trim_ne_nil_of_heading {rest : Text}
    (h : trim (headingMark ++ rest) = headingMark ++ rest) : trim rest ≠ [] := by
  intro hnil
  have hblank : AllBlank (' ' :: rest) := .cons (by decide) ((Text.trim_eq_nil_iff rest).1 hnil)
  have hmark : trim (headingMark ++ rest) = ['#'] := by
    have hsharp : ¬ isBlank '#' = true := by decide
    have hcut : trim ('#' :: ' ' :: rest) = '#' :: trimEnd (' ' :: rest) :=
      Text.trim_cons_of_not_isBlank hsharp _
    rw [Text.trimEnd_of_allBlank hblank] at hcut
    exact hcut
  have hlength := congrArg List.length (hmark.symm.trans h)
  simp [headingMark] at hlength

/-- A piece is the source of its block, whether the block is a heading or a paragraph. -/
theorem hasSource_ofPiece (headings : Bool) {piece : Text} (htrim : trim piece = piece)
    (hne : piece ≠ []) : (Block.ofPiece headings piece).HasSource headings piece := by
  unfold Block.ofPiece
  cases hmark : headingMark.isPrefixOf? piece with
  | none =>
    refine ⟨fun hboth => ?_, hne, rfl⟩
    exact Text.isPrefixOf?_eq_none_iff.1 hmark hboth.2
  | some rest =>
    obtain rfl := Text.isPrefixOf?_eq_some_iff.1 hmark
    cases headings with
    | true => exact ⟨rfl, trim_ne_nil_of_heading htrim, rest, rfl, rfl⟩
    | false => exact ⟨fun hboth => Bool.false_ne_true hboth.1, hne, rfl⟩

/-- **Blocks are the runs of lines that are not blank.** The lines of a text are what stands
between its line feeds. They have their runs in one way, and the blocks are one for each run, in
order: the source of a block is its lines joined and trimmed. No block is empty. -/
theorem segment_lines (headings : Bool) (t : Text) :
    ∃ runs, (∀ others, RunsOf AllBlank (splitOn '\n' t) others ↔ others = runs) ∧
      List.Forall₂ (fun run block => Block.HasSource headings (trim (join ['\n'] run)) block) runs
        (segment headings t) := by
  obtain ⟨runs, hruns⟩ := exists_runsOf AllBlank (splitOn '\n' t)
  have hpieces : pieces t = runs.map fun run => trim (join ['\n'] run) := by
    conv_lhs => rw [← Text.join_splitOn '\n' t]
    exact pieces_join hruns (areLines_splitOn t)
  refine ⟨runs, fun others => ⟨fun hothers => hruns.unique hothers, fun heq => heq ▸ hruns⟩, ?_⟩
  rw [segment_eq, hpieces, List.map_map, List.forall₂_map_right_iff, List.forall₂_same]
  intro run hrun
  -- the piece is trimmed and filled because it is one of the pieces of the text
  have hmem : trim (join ['\n'] run) ∈ pieces t := by
    rw [hpieces]
    exact List.mem_map_of_mem hrun
  obtain ⟨htrim, hne⟩ := mem_pieces hmem
  exact hasSource_ofPiece headings htrim hne

/-- Blank lines at both ends, one of them with a CR in it, and a heading of two lines. -/
example : segment true " \n# a\n b\r\n\r\n\n#c\n\t".toList =
    [.heading "a\n b".toList, .paragraph "#c".toList] := by
  decide +kernel

end MarkupDesk.Markup
