/-
`Shell/Words.lean` -- a command line split into words.

Blanks separate words. Quotes keep what is between them in one word; a backslash takes
the next character as it is, and joins lines. A `#` where a word could begin starts a
comment. A quote that is not closed makes the whole line no command.
-/
import MarkupDesk.Text.Basic

set_option autoImplicit false

namespace MarkupDesk.Shell

/-- Where splitting stands. -/
inductive WordState where
  /-- Between words. -/
  | between
  /-- Between words, behind a backslash. -/
  | escapedStart
  | word
  /-- In a word, behind a backslash. -/
  | escaped
  | singleQuoted
  | doubleQuoted
  /-- Between double quotes, behind a backslash. -/
  | doubleEscaped
  | comment
  deriving DecidableEq, Repr

/-- Does the character separate words? -/
def isSeparator (c : Char) : Bool := c == ' ' || c == '\t' || c == '\n'

/-- The words from a state on; `current` holds the characters of the word so far, the last
one first. -/
def splitFrom : WordState → (current : Text) → Text → Option (List Text)
  | .between, _, [] => some []
  | .escapedStart, current, [] => some [('\\' :: current).reverse]
  | .word, current, [] => some [current.reverse]
  | .escaped, current, [] => some [('\\' :: current).reverse]
  | .singleQuoted, _, [] => none
  | .doubleQuoted, _, [] => none
  | .doubleEscaped, _, [] => none
  | .comment, _, [] => some []
  | .between, current, c :: rest =>
    if isSeparator c then splitFrom .between current rest
    else if c = '\'' then splitFrom .singleQuoted current rest
    else if c = '"' then splitFrom .doubleQuoted current rest
    else if c = '\\' then splitFrom .escapedStart current rest
    else if c = '#' then splitFrom .comment current rest
    else splitFrom .word (c :: current) rest
  | .escapedStart, current, c :: rest =>
    if c = '\n' then splitFrom .between current rest else splitFrom .word (c :: current) rest
  | .word, current, c :: rest =>
    if isSeparator c then (splitFrom .between [] rest).map (current.reverse :: ·)
    else if c = '\'' then splitFrom .singleQuoted current rest
    else if c = '"' then splitFrom .doubleQuoted current rest
    else if c = '\\' then splitFrom .escaped current rest
    else splitFrom .word (c :: current) rest
  | .escaped, current, c :: rest =>
    if c = '\n' then splitFrom .word current rest else splitFrom .word (c :: current) rest
  | .singleQuoted, current, c :: rest =>
    if c = '\'' then splitFrom .word current rest else splitFrom .singleQuoted (c :: current) rest
  | .doubleQuoted, current, c :: rest =>
    if c = '"' then splitFrom .word current rest
    else if c = '\\' then splitFrom .doubleEscaped current rest
    else splitFrom .doubleQuoted (c :: current) rest
  | .doubleEscaped, current, c :: rest =>
    if c = '\n' then splitFrom .doubleQuoted current rest
    else if c = '$' ∨ c = '\x60' ∨ c = '"' ∨ c = '\\' then
      splitFrom .doubleQuoted (c :: current) rest
    else splitFrom .doubleQuoted (c :: '\\' :: current) rest
  | .comment, current, c :: rest =>
    if c = '\n' then splitFrom .between current rest else splitFrom .comment current rest

/-- The words of a command line, unless a quote is not closed. -/
def splitWords? (commandLine : Text) : Option (List Text) := splitFrom .between [] commandLine

end MarkupDesk.Shell
