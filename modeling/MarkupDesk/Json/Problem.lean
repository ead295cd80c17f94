/-
`Json/Problem.lean` -- what can be wrong with JSON, and where.

A problem is a cause. Where it was met is recorded as the number of bytes that
were still unread, so that a reader which hands on the rest of its input knows
the place without counting; `Fault.position` turns it into a line and a column,
both counted from the start of the source, the column in bytes.
-/
import MarkupDesk.Json.Value
import MarkupDesk.Text.Quoted

set_option autoImplicit false

namespace MarkupDesk.Json

/-- A value that was found where another kind was expected. -/
inductive Found where
  | null
  | bool (value : Bool)
  | number (value : JsonNumber)
  | string (value : Text)
  | sequence
  | map
  deriving DecidableEq, Repr

/-- What can be wrong with a JSON text or with the shape of a value. -/
inductive Problem where
  | unfinishedValue
  | unfinishedList
  | unfinishedObject
  | unfinishedString
  | expectedValue
  | expectedIdent
  | expectedColon
  | expectedListSeparator
  | expectedObjectSeparator
  | keyNotString
  | trailingComma
  | trailingCharacters
  | invalidNumber
  | numberOutOfRange
  | invalidEscape
  | loneSurrogate
  | unfinishedSurrogatePair
  | controlCharacter
  | tooDeep
  | wrongKind (found : Found) (expected : Text)
  | wrongValue (found : Found) (expected : Text)
  | wrongLength (length : Nat) (expected : Text)
  | missingField (name : Text)
  | repeatedField (name : Text)
  | unknownVariant (name : Text) (variants : List Text)
  | malformedTime
  deriving DecidableEq, Repr

namespace Found

/-- The kind of a value, with the value itself when it is a scalar. -/
def ofJson : Json → Found
  | .null => .null
  | .bool value => .bool value
  | .number value => .number value
  | .string value => .string value
  | .array _ => .sequence
  | .object _ => .map

/-- How a found value is named in a message. -/
def message : Found → Text
  | .null => "null"
  | .bool true => "boolean `true`"
  | .bool false => "boolean `false`"
  | .number (.integer value) => "integer `" ++ Text.ofInt value ++ "`"
  | .number (.double value) => "floating point `" ++ JsonNumber.layout.formatDouble value ++ "`"
  | .string value => "string " ++ Text.quoted value
  | .sequence => "sequence"
  | .map => "map"

end Found

/-- A name between backquotes. -/
def ticked (name : Text) : Text := "`" ++ name ++ "`"

/-- The message of a problem, without its place. -/
def Problem.message : Problem → Text
  | .unfinishedValue => "EOF while parsing a value"
  | .unfinishedList => "EOF while parsing a list"
  | .unfinishedObject => "EOF while parsing an object"
  | .unfinishedString => "EOF while parsing a string"
  | .expectedValue => "expected value"
  | .expectedIdent => "expected ident"
  | .expectedColon => "expected `:`"
  | .expectedListSeparator => "expected `,` or `]`"
  | .expectedObjectSeparator => "expected `,` or `\x7d`"
  | .keyNotString => "key must be a string"
  | .trailingComma => "trailing comma"
  | .trailingCharacters => "trailing characters"
  | .invalidNumber => "invalid number"
  | .numberOutOfRange => "number out of range"
  | .invalidEscape => "invalid escape"
  | .loneSurrogate => "lone leading surrogate in hex escape"
  | .unfinishedSurrogatePair => "unexpected end of hex escape"
  | .controlCharacter => "control character (\\u0000-\\u001F) found while parsing a string"
  | .tooDeep => "recursion limit exceeded"
  | .wrongKind found expected => "invalid type: " ++ found.message ++ ", expected " ++ expected
  | .wrongValue found expected => "invalid value: " ++ found.message ++ ", expected " ++ expected
  | .wrongLength length expected =>
    "invalid length " ++ Text.ofNat length ++ ", expected " ++ expected
  | .missingField name => "missing field " ++ ticked name
  | .repeatedField name => "duplicate field " ++ ticked name
  | .unknownVariant name variants =>
    "unknown variant " ++ ticked name ++ ", expected " ++ Text.join " or " (variants.map ticked)
  | .malformedTime => "input contains invalid characters"

/-- A problem and the number of bytes that were unread where it was met. -/
structure Fault where
  problem : Problem
  unread : Nat
  deriving DecidableEq, Repr

namespace Fault

/-- A problem met in front of `rest`. -/
def before (problem : Problem) (rest : Text) : Fault := ⟨problem, Text.byteLength rest⟩

/-- A problem with the first byte of `rest`, which counts as read. -/
def reading (problem : Problem) (rest : Text) : Fault := ⟨problem, Text.byteLength rest - 1⟩

/-- The line, from 1, and the bytes of that line within the first `offset` bytes,
when `line` and `column` are those of the text before. -/
def positionFrom (line column : Nat) : (offset : Nat) → Text → Nat × Nat
  | _, [] => (line, column)
  | offset, c :: rest =>
    if offset < c.utf8Size then (line, column + offset)
    else if c = '\n' then positionFrom (line + 1) 0 (offset - c.utf8Size) rest
    else positionFrom line (column + c.utf8Size) (offset - c.utf8Size) rest

/-- The line and the column of a fault in its source. -/
def position (source : Text) (fault : Fault) : Nat × Nat :=
  positionFrom 1 0 (Text.byteLength source - fault.unread) source

/-- The message of a fault in its source. -/
def message (source : Text) (fault : Fault) : Text :=
  let place := fault.position source
  fault.problem.message ++ " at line " ++ Text.ofNat place.1 ++ " column " ++ Text.ofNat place.2

end Fault

end MarkupDesk.Json
