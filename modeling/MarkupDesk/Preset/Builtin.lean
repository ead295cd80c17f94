/-
`Preset/Builtin.lean` -- the preset that is always there.
-/
import MarkupDesk.Preset.Basic

set_option autoImplicit false

namespace MarkupDesk.Preset

open Markup (MarkerMap MarkerSpec Rules)

/-- The lines of the built-in template. -/
def builtinTemplateLines : List Text :=
  ["<!doctype html>",
    "<html lang=\"en\">",
    "<head>",
    "  <meta charset=\"utf-8\">",
    "  <meta name=\"viewport\" content=\"width=device-width, initial-scale=1\">",
    "  <title>\x7b\x7btitle\x7d\x7d</title>",
    "  <style>",
    "    body \x7b max-width: 42rem; margin: 3rem auto; padding: 0 1rem; font: 18px/1.6 Georgia, serif; color: #222; \x7d",
    "    h1 \x7b font-size: 2rem; margin-bottom: 2rem; \x7d",
    "    h2 \x7b font-size: 1.35rem; margin-top: 2.2rem; \x7d",
    "    .arabic \x7b font-family: \"Amiri\", \"Scheherazade New\", serif; direction: rtl; unicode-bidi: isolate; font-size: 1.2em; \x7d",
    "    .note \x7b color: #666; font-size: 0.9em; \x7d",
    "  </style>",
    "</head>",
    "<body>",
    "  <h1>\x7b\x7btitle\x7d\x7d</h1>",
    "  \x7b\x7bcontent\x7d\x7d",
    "</body>",
    "</html>"]

/-- The built-in template. -/
def builtinTemplate : Text := builtinTemplateLines.flatMap fun line => line ++ ['\n']

/-- The markers of the built-in preset. -/
def builtinMarkers : MarkerMap :=
  .ofPairs
    [("b", ⟨"strong", none⟩), ("i", ⟨"em", none⟩), ("ar", ⟨"span", some "arabic"⟩),
      ("note", ⟨MarkerSpec.defaultTag, some "note"⟩)]

/-- The reference sheet of the built-in preset. -/
def builtinReference : List ReferenceItem :=
  [⟨"# Heading", "Section heading", none⟩,
    ⟨"\x7bb:...\x7d", "Bold text", none⟩,
    ⟨"\x7bi:...\x7d", "Italic text", none⟩,
    ⟨"\x7bar:...\x7d", "Arabic text", none⟩,
    ⟨"\x7bnote:...\x7d", "Side note", some "note"⟩]

/-- What a new draft of the built-in preset begins with. -/
def builtinContent : Text :=
  Text.join ['\n']
    ["# Welcome", "", "Write paragraphs separated by a blank line.",
      "Use \x7bb:bold\x7d, \x7bi:italic\x7d and \x7bar:مرحبا\x7d markers."]

/-- The preset that is always there. -/
def builtin : Preset where
  id := "basic"
  name := some "Basic page"
  path := none
  template := builtinTemplate
  rules := ⟨true, some builtinMarkers⟩
  reference := builtinReference
  title := some "Page"
  content := some builtinContent

end MarkupDesk.Preset
