/-
`Markup/Block.lean` -- the blocks of a document.

Blocks are separated by blank lines: a separator is a line break, any white
space and a last line break, taken as long as possible. `blankTail?` reads the
rest of a separator behind its first line break, `splitAtBlankLines` cuts at
every separator, and `segment` trims the pieces, drops the empty ones and tells
headings from paragraphs.
-/
import MarkupDesk.Text.Blank

set_option autoImplicit false

namespace MarkupDesk.Markup

/-- A block of a document, with its text as it stands in the source. -/
inductive Block where
  /-- A heading, without its marker `# `. -/
  | heading (title : Text)
  /-- A paragraph, its line breaks included. -/
  | paragraph (body : Text)
  deriving DecidableEq, Repr

/-- What a heading begins with. -/
def headingMark : Text := ['#', ' ']

/-- The text with every CR LF written as LF; a lone CR stays. -/
def unifyLineEndings : Text → Text
  | '\r' :: '\n' :: rest => '\n' :: unifyLineEndings rest
  | c :: rest => c :: unifyLineEndings rest
  | [] => []

/-! ## 1. Separators -/

/-- What follows the last line break of the white space that `t` begins with, if
that white space has a line break. -/
def blankTail? : Text → Option Text
  | [] => none
  | c :: rest =>
    if Text.isBlank c then
      match blankTail? rest with
      | some tail => some tail
      | none => if c = '\n' then some rest else none
    else none

theorem length_of_blankTail? {t tail : Text} (h : blankTail? t = some tail) :
    tail.length < t.length := by
  induction t with
  | nil => simp [blankTail?] at h
  | cons c rest ih =>
    simp only [blankTail?] at h
    split at h
    · split at h
      next found hfound =>
        obtain rfl : found = tail := by simpa using h
        have := ih hfound
        simp only [List.length_cons]; omega
      next =>
        split at h
        · obtain rfl : rest = tail := by simpa using h
          simp
        · simp at h
    · simp at h

/-- The pieces of the text between separators. There is one piece more than
there are separators, and pieces may be empty. -/
def splitAtBlankLines : Text → List Text
  | [] => [[]]
  | c :: rest =>
    match _h : if c = '\n' then blankTail? rest else none with
    | some tail => [] :: splitAtBlankLines tail
    | none =>
      match splitAtBlankLines rest with
      | [] => [[c]]
      | piece :: pieces => (c :: piece) :: pieces
termination_by t => t.length
decreasing_by
  · split at _h
    · have := length_of_blankTail? _h
      simp only [List.length_cons]; omega
    · simp at _h
  · simp

/-! ## 2. Blocks -/

/-- The kind of a piece that is trimmed and not empty. -/
def Block.ofPiece (headings : Bool) (piece : Text) : Block :=
  match headingMark.isPrefixOf? piece with
  | some title => if headings then .heading (Text.trim title) else .paragraph piece
  | none => .paragraph piece

/-- The blocks of a text, in order. With `headings` off every block is a paragraph. -/
def segment (headings : Bool) (t : Text) : List Block :=
  ((splitAtBlankLines t).map Text.trim).filter (fun piece => !piece.isEmpty)
    |>.map (Block.ofPiece headings)

end MarkupDesk.Markup
