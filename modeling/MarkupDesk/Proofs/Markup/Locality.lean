/-
`Proofs/Markup/Locality.lean` -- a blank line keeps two parts of a document apart.

The blocks of a document are the pieces between its blank lines (`pieces_append_separator`),
but three things are done to the whole document before it is cut: its line endings are
unified, its ends are trimmed, and a separator is taken as long as possible. Trimming changes
no piece. Unifying acts across the seam: a CR at the end of the first part becomes one line
ending with the LF of the separator. It is white space at the end of a part, so no piece
changes (`unifyLineEndings_append`).

Hence the blocks of two parts with a separator between them are the blocks of the one and then
those of the other, whatever separator it is, and the HTML is the HTML of the parts.
-/
import MarkupDesk.Proofs.Markup.BlankLines
import MarkupDesk.Proofs.Markup.Output
import MarkupDesk.Proofs.Text.Pieces

set_option autoImplicit false

namespace MarkupDesk.Markup

open Text (AllBlank)

/-! ## 1. Separators as they stand in a source -/

/-- How a line of a source ends. -/
inductive LineEnd where
  | lf
  | crlf
  deriving DecidableEq, Repr

def LineEnd.text : LineEnd → Text
  | .lf => ['\n']
  | .crlf => ['\r', '\n']

/-- A separator: the end of a line, white space, and the end of another line. -/
structure Separator where
  first : LineEnd
  between : Text
  last : LineEnd
  blank : AllBlank between

def Separator.text (s : Separator) : Text := s.first.text ++ s.between ++ s.last.text

/-! ## 2. Line endings -/

/-- Only a CR in front of a LF is written otherwise. -/
theorem unifyLineEndings_cons {c : Char} {t : Text} (h : c = '\r' → ∀ rest, t ≠ '\n' :: rest) :
    unifyLineEndings (c :: t) = c :: unifyLineEndings t := by
  rw [unifyLineEndings]
  rintro rest rfl rfl
  exact h rfl rest rfl

/-- Each line end is unified to a line feed. -/
theorem unifyLineEndings_lineEnd (e : LineEnd) (t : Text) :
    unifyLineEndings (e.text ++ t) = '\n' :: unifyLineEndings t := by
  cases e with
  | lf => exact unifyLineEndings_cons (fun h => absurd h (by decide))
  | crlf => rfl

/-- Unifying brings in no character that was not there. -/
theorem mem_of_mem_unifyLineEndings {c : Char} {t : Text} (h : c ∈ unifyLineEndings t) :
    c ∈ t := by
  induction t using unifyLineEndings.induct with
  | case1 rest ih =>
    rw [unifyLineEndings] at h
    rcases List.mem_cons.1 h with rfl | h
    · simp
    · exact List.mem_cons_of_mem _ (List.mem_cons_of_mem _ (ih h))
  | case2 x rest hno ih =>
    rw [unifyLineEndings_cons fun hc r ht => hno r hc ht] at h
    rcases List.mem_cons.1 h with rfl | h
    · exact List.mem_cons_self
    · exact List.mem_cons_of_mem _ (ih h)
  | case3 => cases h

/-- In front of a line end a text is unified as it is alone, but for a CR at its end, which may
become part of the line end. -/
theorem unifyLineEndings_append (t : Text) (e : LineEnd) (rest : Text) :
    ∃ before behind, AllBlank behind ∧ unifyLineEndings t = before ++ behind ∧
      unifyLineEndings (t ++ (e.text ++ rest)) = before ++ '\n' :: unifyLineEndings rest := by
  induction t using unifyLineEndings.induct with
  | case1 t ih =>
    obtain ⟨before, behind, hbehind, halone, hboth⟩ := ih
    exact ⟨'\n' :: before, behind, hbehind, congrArg ('\n' :: ·) halone,
      congrArg ('\n' :: ·) hboth⟩
  | case2 c t hno ih =>
    have halone := unifyLineEndings_cons (c := c) (t := t) fun hc r ht => hno r hc ht
    by_cases hseam : c = '\r' ∧ t = [] ∧ e = .lf
    · -- the CR and the LF of the line end meet
      obtain ⟨rfl, rfl, rfl⟩ := hseam
      exact ⟨[], ['\r'], by decide, rfl, rfl⟩
    · obtain ⟨before, behind, hbehind, hrest, hboth⟩ := ih
      refine ⟨c :: before, behind, hbehind, by rw [halone, hrest, List.cons_append], ?_⟩
      rw [List.cons_append, unifyLineEndings_cons, hboth, List.cons_append]
      intro hc r ht
      cases t with
      | cons x t => exact hno t hc (by rw [(List.cons.inj ht).1])
      | nil =>
        cases e with
        | lf => exact hseam ⟨hc, rfl, rfl⟩
        | crlf => exact absurd (List.cons.inj ht).1 (by decide)
  | case3 => exact ⟨[], [], .nil, rfl, unifyLineEndings_lineEnd e rest⟩

/-- The pieces of two texts with a separator between them, once line endings are unified. -/
theorem pieces_unifyLineEndings_separated (s : Separator) (a b : Text) :
    pieces (unifyLineEndings (a ++ (s.text ++ b))) =
      pieces (unifyLineEndings a) ++ pieces (unifyLineEndings b) := by
  obtain ⟨above, aboveEnd, haboveEnd, habove, hfirst⟩ :=
    unifyLineEndings_append a s.first (s.between ++ (s.last.text ++ b))
  obtain ⟨middle, middleEnd, -, hmiddle, hlast⟩ := unifyLineEndings_append s.between s.last b
  have hblank : AllBlank middle := fun c hc =>
    s.blank c (mem_of_mem_unifyLineEndings (hmiddle ▸ List.mem_append_left _ hc))
  have hwhole : unifyLineEndings (a ++ (s.text ++ b)) =
      above ++ '\n' :: (middle ++ '\n' :: unifyLineEndings b) := by
    rw [Separator.text, List.append_assoc, List.append_assoc, hfirst, hlast]
  rw [hwhole, pieces_append_separator hblank, habove, pieces_append_right haboveEnd]

/-! ## 3. The document -/

/-- The blocks of a source are made of the pieces of the source with its line ends unified;
that it is trimmed as well makes no difference. -/
theorem blocksOf_eq (rules : Rules) (source : Text) :
    blocksOf rules source =
      (pieces (unifyLineEndings source)).map (Block.ofPiece rules.headings) := by
  rw [blocksOf, segment_eq, pieces_trim]

/-- Two parts of a page, one below the other; a part that is empty takes no line. -/
def stacked (above below : Text) : Text :=
  if above = [] then below
  else if below = [] then above
  else above ++ '\n' :: below

/-- Parts that are not empty are joined to an empty text only if there are none. -/
theorem join_eq_nil_iff {parts : List Text} (h : ∀ part ∈ parts, part ≠ []) :
    Text.join ['\n'] parts = [] ↔ parts = [] := by
  refine ⟨fun hjoin => ?_, fun hparts => by rw [hparts]; rfl⟩
  cases parts with
  | nil => rfl
  | cons part parts =>
    -- the join begins with its first part, which is not empty
    have hbegins : part <+: Text.join ['\n'] (part :: parts) := by
      by_cases hparts : parts = []
      · rw [hparts, Text.join_singleton]
      · rw [Text.join_cons '\n' part hparts]
        exact List.prefix_append _ _
    rw [hjoin, List.prefix_nil] at hbegins
    exact absurd hbegins (h part List.mem_cons_self)

/-- Parts are joined part of the list by part, with a line feed between the two if both have
parts. -/
theorem join_append_eq_stacked {parts parts' : List Text} (h : ∀ part ∈ parts, part ≠ [])
    (h' : ∀ part ∈ parts', part ≠ []) :
    Text.join ['\n'] (parts ++ parts') =
      stacked (Text.join ['\n'] parts) (Text.join ['\n'] parts') := by
  by_cases hparts : parts = []
  · rw [stacked, if_pos ((join_eq_nil_iff h).2 hparts), hparts, List.nil_append]
  · rw [stacked, if_neg fun hjoin => hparts ((join_eq_nil_iff h).1 hjoin)]
    by_cases hparts' : parts' = []
    · rw [if_pos ((join_eq_nil_iff h').2 hparts'), hparts', List.append_nil]
    · rw [if_neg fun hjoin => hparts' ((join_eq_nil_iff h').1 hjoin),
        Text.join_append '\n' hparts hparts']

/-- Every block has some HTML, at least its tags. -/
theorem Block.render_ne_nil (rules : Rules) (block : Block) : block.render rules ≠ [] := by
  cases block <;> exact List.cons_ne_nil _ _

/-- **Blocks are local.** Two parts of a document with a separator between them, any separator,
have the blocks of the one part and then the blocks of the other, and the HTML of the document
is the HTML of the parts, one below the other. -/
theorem compile_separated (rules : Rules) (s : Separator) (a b : Text) :
    blocksOf rules (a ++ s.text ++ b) = blocksOf rules a ++ blocksOf rules b ∧
      compile rules (a ++ s.text ++ b) = stacked (compile rules a) (compile rules b) := by
  have hblocks : blocksOf rules (a ++ s.text ++ b) = blocksOf rules a ++ blocksOf rules b := by
    rw [blocksOf_eq, List.append_assoc, pieces_unifyLineEndings_separated, List.map_append,
      ← blocksOf_eq, ← blocksOf_eq]
  have hrendered : ∀ blocks : List Block, ∀ part ∈ blocks.map (Block.render rules), part ≠ [] := by
    intro blocks part hpart
    obtain ⟨block, -, rfl⟩ := List.mem_map.1 hpart
    exact block.render_ne_nil rules
  refine ⟨hblocks, ?_⟩
  rw [compile_eq, hblocks, List.map_append, join_append_eq_stacked (hrendered _) (hrendered _),
    ← compile_eq, ← compile_eq]

/-- The CR at the end of the first part and the LF of the separator become one line end. -/
example : compile default "# a\r\n\u3000\r\n\n b" = "<h2>a</h2>\n<p>b</p>".toList := by
  decide +kernel

end MarkupDesk.Markup
