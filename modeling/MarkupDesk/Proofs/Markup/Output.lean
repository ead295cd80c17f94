/-
`Proofs/Markup/Output.lean` -- what the HTML of a document can hold.

The HTML is a concatenation of pieces: characters that need no escape, entities, the tags
of headings and paragraphs, and whole tags of configured markers. So every `<`, `>` and
quote in it belongs to such a tag, and every `&` outside the tags begins an entity; no
source text brings in markup of its own. The pieces of one paragraph come from
`reads_expandAll`; here they are put together over the blocks.
-/
import MarkupDesk.Markup.Compile
import MarkupDesk.Proofs.Markup.Passes

set_option autoImplicit false

namespace MarkupDesk.Markup

/-! ## 1. Pieces of a document -/

/-- The configured markers, in order. -/
def entriesOf (markers : Option MarkerMap) : List Entry := (markers.map (·.entries)).getD []

/-- Rules without markers expand nothing. -/
theorem expandMarkers_eq (markers : Option MarkerMap) (t : Text) :
    expandMarkers markers t = expandAll (entriesOf markers) t := by
  cases markers <;> rfl

/-- The blocks of a document. -/
def blocksOf (rules : Rules) (source : Text) : List Block :=
  segment rules.headings (Text.trim (unifyLineEndings source))

/-- The HTML is that of the blocks, one line each. -/
theorem compile_eq (rules : Rules) (source : Text) :
    compile rules source = Text.join ['\n'] ((blocksOf rules source).map (Block.render rules)) := rfl

/-- The tags of headings and paragraphs. -/
def blockTags : List Text :=
  [['<', 'h', '2', '>'], ['<', '/', 'h', '2', '>'], ['<', 'p', '>'], ['<', '/', 'p', '>']]

/-- A piece of the HTML of a document. -/
inductive HtmlPiece (rules : Rules) : Text → Prop
  | plain {c : Char} (h : c ∉ specialChars) : HtmlPiece rules [c]
  | entity (e : Entity) : HtmlPiece rules e.text
  | block {tag : Text} (h : tag ∈ blockTags) : HtmlPiece rules tag
  | opening {entry : Entry} (h : entry ∈ entriesOf rules.markers) :
      HtmlPiece rules entry.2.openingTag
  | closing {entry : Entry} (h : entry ∈ entriesOf rules.markers) :
      HtmlPiece rules entry.2.closingTag

/-- The text is a concatenation of such pieces. -/
def MadeOfPieces (rules : Rules) (t : Text) : Prop :=
  ∃ pieces : List Text, t = pieces.flatten ∧ ∀ piece ∈ pieces, HtmlPiece rules piece

namespace MadeOfPieces

variable {rules : Rules} {t t' : Text}

theorem nil : MadeOfPieces rules [] := ⟨[], rfl, by simp⟩

theorem ofPiece (h : HtmlPiece rules t) : MadeOfPieces rules t := ⟨[t], by simp, by simpa using h⟩

theorem append (h : MadeOfPieces rules t) (h' : MadeOfPieces rules t') :
    MadeOfPieces rules (t ++ t') := by
  obtain ⟨pieces, rfl, hpieces⟩ := h
  obtain ⟨others, rfl, hothers⟩ := h'
  refine ⟨pieces ++ others, List.flatten_append.symm, fun piece hmem => ?_⟩
  rcases List.mem_append.1 hmem with hmem | hmem
  · exact hpieces piece hmem
  · exact hothers piece hmem

theorem join {separator : Text} {parts : List Text} (hsep : MadeOfPieces rules separator)
    (h : ∀ part ∈ parts, MadeOfPieces rules part) : MadeOfPieces rules (Text.join separator parts) := by
  induction parts with
  | nil => exact nil
  | cons part parts ih =>
    have hpart := h part List.mem_cons_self
    cases parts with
    | nil => simpa [Text.join, List.intercalate] using hpart
    | cons next parts =>
      have hrest := ih fun p hp => h p (List.mem_cons_of_mem _ hp)
      simpa [Text.join, List.intercalate] using (hpart.append hsep).append hrest

end MadeOfPieces

/-! ## 2. From a line to a document -/

/-- Pieces that can be read are pieces of the document. -/
theorem Reads.madeOfPieces {rules : Rules} {run after : List Entry} {pieces : List Piece}
    (h : Reads (entriesOf rules.markers) run pieces after) : MadeOfPieces rules (textOf pieces) := by
  induction h with
  | nil => exact .nil
  | plain hc _ _ ih => exact (MadeOfPieces.ofPiece (.plain hc)).append ih
  | entity e _ ih => exact (MadeOfPieces.ofPiece (.entity e)).append ih
  | opening horder _ ih =>
    exact (MadeOfPieces.ofPiece (.opening (horder.subset (by simp)))).append ih
  | closing horder _ ih =>
    exact (MadeOfPieces.ofPiece (.closing (horder.subset (by simp)))).append ih

/-- An escaped text is made of pieces: characters that need no escape, and entities. -/
theorem madeOfPieces_escape (rules : Rules) (t : Text) : MadeOfPieces rules (Html.escape t) := by
  have hempty : '}' ∈ t → ([] : List Entry) = [] := fun _ => rfl
  obtain ⟨pieces, htext, hreads⟩ := reads_escape (entriesOf rules.markers) hempty
  rw [← htext]
  exact hreads.madeOfPieces

/-- A block is made of pieces: its own tags, and between them an escaped title or a paragraph
with its markers expanded. -/
theorem madeOfPieces_render {rules : Rules}
    (hfree : ∀ entry ∈ entriesOf rules.markers, entry.2.BraceFree) (block : Block) :
    MadeOfPieces rules (block.render rules) := by
  have htag : ∀ tag ∈ blockTags, MadeOfPieces rules tag := fun tag h => .ofPiece (.block h)
  cases block with
  | heading title =>
    exact ((htag _ (by simp [blockTags])).append (madeOfPieces_escape rules title)).append
      (htag _ (by simp [blockTags]))
  | paragraph body =>
    obtain ⟨pieces, htext, hreads⟩ :=
      reads_expandAll (entriesOf rules.markers) hfree (collapseLineFeeds body)
    have hline := hreads.madeOfPieces
    rw [htext, ← expandMarkers_eq] at hline
    exact ((htag _ (by simp [blockTags])).append hline).append (htag _ (by simp [blockTags]))

/-- **No markup comes from the source.** Whatever the source and the keys are, as long as no
configured tag or class has a brace, the HTML of a document is a concatenation of characters
that need no escape, entities, tags of headings and paragraphs, and whole tags of configured
markers. -/
theorem compile_madeOfPieces {rules : Rules}
    (hfree : ∀ entry ∈ entriesOf rules.markers, entry.2.BraceFree) (source : Text) :
    MadeOfPieces rules (compile rules source) := by
  rw [compile_eq]
  refine .join (.ofPiece (.plain (by decide))) fun part hpart => ?_
  obtain ⟨block, -, rfl⟩ := List.mem_map.1 hpart
  exact madeOfPieces_render hfree block

/-- Two markers that a text can nest and cross. -/
def emphasisRules : Rules :=
  ((default : Rules).withMarker ['b'] ⟨['b'], none⟩).withMarker ['i'] ⟨['e', 'm'], some ['x']⟩

/-- The second marker's content holds the element that the first one became. -/
theorem compile_nested_madeOfPieces :
    (∀ entry ∈ entriesOf emphasisRules.markers, entry.2.BraceFree) ∧
      MadeOfPieces emphasisRules (compile emphasisRules "{i:{b:<q>}} & {b:a {i:c} d}") :=
  ⟨by decide, compile_madeOfPieces (by decide) _⟩

end MarkupDesk.Markup
