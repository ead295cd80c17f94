/-
`Markup/Compile.lean` -- from a document to the HTML of its body.

A document is a sequence of blocks. A heading becomes `<h2>`, a paragraph `<p>`
on one line with its markers expanded, and the blocks stand one below the other.
-/
import MarkupDesk.Markup.Block
import MarkupDesk.Markup.Expansion

set_option autoImplicit false

namespace MarkupDesk.Markup

/-- The options of a compilation. -/
structure Rules where
  /-- Is a block that begins with `# ` a heading? -/
  headings : Bool
  /-- The markers that paragraphs may use. -/
  markers : Option MarkerMap
  deriving DecidableEq, Repr

namespace Rules

instance : Inhabited Rules := ⟨⟨true, none⟩⟩

/-- The rules with headings on or off. -/
def withHeadings (rules : Rules) (enabled : Bool) : Rules := { rules with headings := enabled }

/-- The rules with one marker more, or with another element for a marker they have. -/
def withMarker (rules : Rules) (key : Text) (spec : MarkerSpec) : Rules :=
  { rules with markers := some ((rules.markers.getD .empty).insert key spec) }

/-- The marker keys, in order. -/
def markerKeys (rules : Rules) : List Text := (rules.markers.map MarkerMap.keys).getD []

end Rules

/-! ## 1. One block -/

/-- The text with every run of line feeds written as one space. -/
def collapseLineFeeds : Text → Text
  | [] => []
  | '\n' :: '\n' :: rest => collapseLineFeeds ('\n' :: rest)
  | '\n' :: rest => ' ' :: collapseLineFeeds rest
  | c :: rest => c :: collapseLineFeeds rest

/-- A heading as HTML. -/
def renderHeading (title : Text) : Text :=
  ['<', 'h', '2', '>'] ++ Html.escape title ++ ['<', '/', 'h', '2', '>']

/-- A paragraph as HTML. The line is escaped before its markers are expanded. -/
def renderParagraph (markers : Option MarkerMap) (body : Text) : Text :=
  ['<', 'p', '>'] ++ expandMarkers markers (Html.escape (collapseLineFeeds body))
    ++ ['<', '/', 'p', '>']

/-- A block as HTML. -/
def Block.render (rules : Rules) : Block → Text
  | .heading title => renderHeading title
  | .paragraph body => renderParagraph rules.markers body

/-! ## 2. The whole document -/

/-- The HTML of a document: its blocks, one below the other. -/
def compile (rules : Rules) (source : Text) : Text :=
  Text.join ['\n'] ((segment rules.headings (Text.trim (unifyLineEndings source))).map
    (Block.render rules))

end MarkupDesk.Markup
