/-
`Page.lean` -- from a source text to a page in a file.

The compiled source and the title are put into the template of the preset. Titles go
in first: a placeholder for the content that a title brings is filled too.
-/
import MarkupDesk.Preset.Basic
import MarkupDesk.Files.Access
import MarkupDesk.Markup.Compile

set_option autoImplicit false

namespace MarkupDesk.Page

open Files (FileError)

/-- Where a template has the title. -/
def titlePlaceholder : Text := "\x7b\x7btitle\x7d\x7d"

/-- Where a template has the content. -/
def contentPlaceholder : Text := "\x7b\x7bcontent\x7d\x7d"

/-- The template with every title placeholder filled, and then every content
placeholder. -/
def applyTemplate (template title content : Text) : Text :=
  Text.replaceAll contentPlaceholder content (Text.replaceAll titlePlaceholder title template)

/-- The title, or the one of the preset when it is blank. -/
def titleOrDefault (preset : Preset) (title : Text) : Text :=
  let trimmed := Text.trim title
  if trimmed.isEmpty then preset.defaultTitle else trimmed

/-- The page of a source text. -/
def render (preset : Preset) (title source : Text) : Text :=
  applyTemplate preset.template (titleOrDefault preset title)
    (Markup.compile preset.rules source)

/-- The name of an exported page that is not given one. -/
def defaultFileName : Text := "page.html"

/-- The name of the file that a page is exported to: one name, whatever was asked for. -/
def exportName (requested : Text) : Text :=
  let trimmed := Text.trim requested
  let name := if trimmed.isEmpty then defaultFileName else trimmed
  Text.maskWith (fun c => c == '/' || c == '\\') '-' name

/-- Writes a page into a directory and tells its path. -/
def exportTo (directory : Path) (requested html : Text) : Task FileError Path := do
  Files.ensureDirectories directory
  let path := Path.join directory (exportName requested)
  Files.writeText path html
  return path

end MarkupDesk.Page
