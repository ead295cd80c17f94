/-
`Json/Printer.lean` -- writing JSON.

Two forms: `compact` on one line without blanks, and `pretty` with one item or
member a line, indented by two spaces a level; an empty array or object is `[]`
or `{}` in both. A string escapes quotes, backslashes and the controls below
U+0020, and nothing else.
-/
import MarkupDesk.Json.Value
import MarkupDesk.Text.Quoted

set_option autoImplicit false

namespace MarkupDesk.Json

/-! ## 1. Strings -/

/-- One character inside a string. -/
def escapeChar (c : Char) : Text :=
  if c == '"' then ['\\', '"']
  else if c == '\\' then ['\\', '\\']
  else if c == '\n' then ['\\', 'n']
  else if c == '\r' then ['\\', 'r']
  else if c == '\t' then ['\\', 't']
  else if c == '\x08' then ['\\', 'b']
  else if c == '\x0c' then ['\\', 'f']
  else if c.toNat < 0x20 then ['\\', 'u'] ++ Text.hexPadded 4 c.toNat
  else [c]

/-- A string with its quotes. -/
def quote (t : Text) : Text := '"' :: t.flatMap escapeChar ++ ['"']

/-- The text of a truth value. -/
def boolText : Bool → Text
  | true => "true"
  | false => "false"

/-! ## 2. On one line -/

mutual

/-- The value on one line. -/
def compact : Json → Text
  | .null => "null"
  | .bool value => boolText value
  | .number value => value.toText
  | .string value => quote value
  | .array items => '[' :: compactItems items ++ [']']
  | .object members => '{' :: compactMembers members ++ ['}']

/-- The items of an array with commas between them. -/
def compactItems : List Json → Text
  | [] => []
  | [item] => compact item
  | item :: items => compact item ++ ',' :: compactItems items

/-- The members of an object with commas between them. -/
def compactMembers : List (Text × Json) → Text
  | [] => []
  | [(name, value)] => quote name ++ ':' :: compact value
  | (name, value) :: members => quote name ++ ':' :: compact value ++ ',' :: compactMembers members

end

/-! ## 3. Indented -/

/-- A line break and the indentation of a level. -/
def newLine (level : Nat) : Text := '\n' :: Text.spaces (2 * level)

mutual

/-- The value with its inner lines indented by `level + 1` steps. -/
def prettyAt (level : Nat) : Json → Text
  | .null => "null"
  | .bool value => boolText value
  | .number value => value.toText
  | .string value => quote value
  | .array [] => ['[', ']']
  | .array (item :: items) =>
    '[' :: prettyItems (level + 1) (item :: items) ++ newLine level ++ [']']
  | .object [] => ['{', '}']
  | .object (member :: members) =>
    '{' :: prettyMembers (level + 1) (member :: members) ++ newLine level ++ ['}']

/-- The items of an array, each on a line of its own. -/
def prettyItems (level : Nat) : List Json → Text
  | [] => []
  | [item] => newLine level ++ prettyAt level item
  | item :: items => newLine level ++ prettyAt level item ++ ',' :: prettyItems level items

/-- The members of an object, each on a line of its own. -/
def prettyMembers (level : Nat) : List (Text × Json) → Text
  | [] => []
  | [(name, value)] => newLine level ++ quote name ++ ':' :: ' ' :: prettyAt level value
  | (name, value) :: members =>
    newLine level ++ quote name ++ ':' :: ' ' :: prettyAt level value
      ++ ',' :: prettyMembers level members

end

/-- The value over as many lines as it has items and members. -/
def pretty (value : Json) : Text := prettyAt 0 value

end MarkupDesk.Json
