/-
`Proofs/Page/Template.lean` -- what a template is filled with.

A template is read once from left to right: it is made of title placeholders, content
placeholders and characters that are copied (`pieces`). To fill it at once is to put a value for
each of these (`fill`). `applyTemplate` goes over the text twice, first for the titles and then
for the contents (`applyTemplate_fill`), so a content placeholder that a title brings, or that
it makes together with what stands around it, is filled as well. A content is not looked at
again.

The two ways agree exactly where the titles do not make a content placeholder. This is the
question when filling slots is replacing occurrences (`Text.replaceAll_spell_iff`), as the two
placeholders cannot overlap.
-/
import MarkupDesk.Page
import MarkupDesk.Proofs.Text.Replace

set_option autoImplicit false

namespace MarkupDesk.Page

open Text (Apart Unbordered occurrences replaceAll spell)

/-! ## 1. Filling at once -/

/-- What a template is made of. -/
inductive Piece where
  | title
  | content
  /-- A character that no placeholder begins with. -/
  | copied (c : Char)
  deriving DecidableEq, Repr

/-- A template read from left to right: behind a placeholder the reading goes on right behind
it. -/
def pieces (t : Text) : List Piece :=
  match t with
  | [] => []
  | c :: rest =>
    match _h : titlePlaceholder.isPrefixOf? (c :: rest) with
    | some behind => .title :: pieces behind
    | none =>
      match _h' : contentPlaceholder.isPrefixOf? (c :: rest) with
      | some behind => .content :: pieces behind
      | none => .copied c :: pieces rest
termination_by t.length
decreasing_by
  · rw [Text.isPrefixOf?_eq_some_iff.1 _h, List.length_append]
    exact Nat.lt_add_of_pos_left (by decide)
  · rw [Text.isPrefixOf?_eq_some_iff.1 _h', List.length_append]
    exact Nat.lt_add_of_pos_left (by decide)
  · simp

/-- What stands for a piece. -/
def Piece.filled (title content : Text) : Piece → Text
  | .title => title
  | .content => content
  | .copied c => [c]

/-- The template with a title for each title placeholder and a content for each content
placeholder. Nothing that is put in is looked at. -/
def fill (title content template : Text) : Text :=
  (pieces template).flatMap (Piece.filled title content)

theorem unbordered_title : Unbordered titlePlaceholder := ⟨by decide, by decide⟩

theorem unbordered_content : Unbordered contentPlaceholder := ⟨by decide, by decide⟩

/-- No title placeholder begins in a content placeholder. -/
theorem apart_title_content : Apart titlePlaceholder contentPlaceholder := by decide

/-- No content placeholder begins in a title placeholder. -/
theorem apart_content_title : Apart contentPlaceholder titlePlaceholder := by decide

/-- The four cases of the reading. -/
theorem pieces_induction {motive : Text → List Piece → Prop} (nil : motive [] [])
    (title : ∀ behind, motive behind (pieces behind) →
      motive (titlePlaceholder ++ behind) (.title :: pieces behind))
    (content : ∀ behind, motive behind (pieces behind) →
      motive (contentPlaceholder ++ behind) (.content :: pieces behind))
    (copied : ∀ c t, ¬ titlePlaceholder <+: c :: t → ¬ contentPlaceholder <+: c :: t →
      motive t (pieces t) → motive (c :: t) (.copied c :: pieces t))
    (t : Text) : motive t (pieces t) := by
  fun_induction pieces t with
  | case1 => exact nil
  | case2 c rest behind hfound ih =>
    rw [Text.isPrefixOf?_eq_some_iff.1 hfound]
    exact title behind ih
  | case3 c rest hno behind hfound ih =>
    rw [Text.isPrefixOf?_eq_some_iff.1 hfound]
    exact content behind ih
  -- neither placeholder begins here
  | case4 c rest hno hno' ih =>
    have htitle := Text.isPrefixOf?_eq_none_iff.1 hno
    have hcontent := Text.isPrefixOf?_eq_none_iff.1 hno'
    exact copied c rest htitle hcontent ih

/-! ## 2. Filling twice -/

/-- To replace the title placeholders is to fill the template and to leave the content
placeholders. -/
theorem replaceAll_title (title template : Text) :
    replaceAll titlePlaceholder title template = fill title contentPlaceholder template := by
  unfold fill
  induction template using pieces_induction with
  | nil => exact Text.replaceAll_nil unbordered_title.filled title
  | title behind ih =>
    rw [Text.replaceAll_here unbordered_title.filled, ih, List.flatMap_cons]
    rfl
  | content behind ih =>
    rw [Text.replaceAll_apart apart_title_content, ih, List.flatMap_cons]
    rfl
  | copied c t hno _ ih =>
    rw [Text.replaceAll_next hno, ih, List.flatMap_cons]
    rfl

/-- To replace the content placeholders is to fill the template and to leave the title
placeholders. -/
theorem replaceAll_content (content template : Text) :
    replaceAll contentPlaceholder content template = fill titlePlaceholder content template := by
  unfold fill
  induction template using pieces_induction with
  | nil => exact Text.replaceAll_nil unbordered_content.filled content
  | title behind ih =>
    rw [Text.replaceAll_apart apart_content_title, ih, List.flatMap_cons]
    rfl
  | content behind ih =>
    rw [Text.replaceAll_here unbordered_content.filled, ih, List.flatMap_cons]
    rfl
  | copied c t _ hno ih =>
    rw [Text.replaceAll_next hno, ih, List.flatMap_cons]
    rfl

/-! ## 3. Titles that make placeholders -/

/-- The characters of a piece once the titles are put in; a content placeholder is a slot. -/
def Piece.marks (title : Text) : Piece → List (Option Char)
  | .title => title.map some
  | .content => [none]
  | .copied c => [some c]

theorem spell_marks (title content : Text) (ps : List Piece) :
    spell content (ps.flatMap (Piece.marks title)) = ps.flatMap (Piece.filled title content) := by
  induction ps with
  | nil => rfl
  | cons piece ps ih =>
    rw [List.flatMap_cons, List.flatMap_cons, Text.spell_append, ih]
    cases piece with
    | title => rw [Piece.marks, Text.spell_map_some, Piece.filled]
    | content => rw [Piece.marks, Piece.filled, spell, List.flatMap_singleton, Option.elim_none]
    | copied c => rfl

/-- The slots are the content placeholders of the template. -/
theorem count_marks (title template : Text) :
    ((pieces template).flatMap (Piece.marks title)).count none =
      occurrences contentPlaceholder template := by
  induction template using pieces_induction with
  | nil => exact (Text.occurrences_nil unbordered_content.filled).symm
  | title behind ih =>
    rw [List.flatMap_cons, Text.occurrences_apart apart_content_title, ← ih]
    exact Text.count_none_map title _
  | content behind ih =>
    rw [List.flatMap_cons, Text.occurrences_here unbordered_content, ← ih]
    exact List.count_cons_self
  | copied c t _ hno ih =>
    rw [List.flatMap_cons, Text.occurrences_next hno, ← ih]
    exact List.count_cons_of_ne (Option.some_ne_none c)

/-- **A template is filled twice**, first with the titles and then with the contents, and nothing
that a filling puts in is looked at by the same filling. The result is the template filled at once
where the titles bring no further content placeholder, and only there, unless the content is the
placeholder itself. -/
theorem applyTemplate_fill (template title content : Text) :
    applyTemplate template title content =
        fill titlePlaceholder content (fill title contentPlaceholder template) ∧
      (applyTemplate template title content = fill title content template ↔
        content = contentPlaceholder ∨
          occurrences contentPlaceholder (fill title contentPlaceholder template) =
            occurrences contentPlaceholder template) := by
  have htwice : applyTemplate template title content =
      fill titlePlaceholder content (fill title contentPlaceholder template) := by
    rw [applyTemplate, replaceAll_title, replaceAll_content]
  refine ⟨htwice, ?_⟩
  -- the title pass leaves one mark for each content placeholder; whether it adds one is a count
  have hiff := Text.replaceAll_spell_iff unbordered_content content
    ((pieces template).flatMap (Piece.marks title))
  rw [spell_marks, spell_marks, count_marks] at hiff
  rw [applyTemplate, replaceAll_title]
  exact hiff

/-- A placeholder that the title makes with the braces around it. -/
example : applyTemplate "\x7b\x7b\x7b\x7btitle\x7d\x7d\x7d\x7d" "content" ['X'] = ['X'] := by
  decide +kernel

/-- The title is a content placeholder, so the content is put in its place. Filled at once, the
template would show the title. -/
theorem title_filled_again :
    applyTemplate titlePlaceholder contentPlaceholder ['X'] = ['X'] ∧
      fill contentPlaceholder ['X'] titlePlaceholder = contentPlaceholder ∧
      applyTemplate titlePlaceholder contentPlaceholder ['X'] ≠
        fill contentPlaceholder ['X'] titlePlaceholder := by
  decide +kernel

end MarkupDesk.Page
