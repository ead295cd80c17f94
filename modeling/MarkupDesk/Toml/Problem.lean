/-
`Toml/Problem.lean` -- what can be wrong with a TOML text, and how it is told.

A fault is what stops a reader: what was being read, what could have come, and what is
wrong with what did come. As long as a fault is not final another form may be tried in
its place. A problem is a message about a part of the source; its report shows the line
with the part underlined.

Places are counts of the bytes that were still unread, so that a reader which hands on
the rest of its input knows the place without counting.
-/
import MarkupDesk.Text.Basic

set_option autoImplicit false

namespace MarkupDesk.Toml

/-! ## 1. Places -/

/-- A part of a source: the bytes unread in front of it and behind it. -/
structure Span where
  first : Nat
  behind : Nat
  deriving DecidableEq, Repr

namespace Span

/-- What was read from `t` when `rest` is left. -/
def between (t rest : Text) : Span := ⟨Text.byteLength t, Text.byteLength rest⟩

/-- The part from the start of the one to the end of the other. -/
def upTo (span other : Span) : Span := ⟨span.first, other.behind⟩

/-- The number of bytes. -/
def size (span : Span) : Nat := span.first - span.behind

end Span

/-! ## 2. Faults -/

/-- What was being read. -/
inductive Subject where
  | key
  | tableHeader
  | string
  | basicString
  | literalString
  | longBasicString
  | longLiteralString
  | escape
  | shortCode
  | longCode
  | integer
  | hexInteger
  | octalInteger
  | binaryInteger
  | float
  | dateTime
  | time
  | timeOffset
  | array
  | inlineTable
  deriving DecidableEq, Repr

/-- The name of what was being read. -/
def Subject.name : Subject → Text
  | .key => "key"
  | .tableHeader => "table header"
  | .string => "string"
  | .basicString => "basic string"
  | .literalString => "literal string"
  | .longBasicString => "multiline basic string"
  | .longLiteralString => "multiline literal string"
  | .escape => "escape sequence"
  | .shortCode => "unicode 4-digit hex code"
  | .longCode => "unicode 8-digit hex code"
  | .integer => "integer"
  | .hexInteger => "hexadecimal integer"
  | .octalInteger => "octal integer"
  | .binaryInteger => "binary integer"
  | .float => "floating-point number"
  | .dateTime => "date-time"
  | .time => "time"
  | .timeOffset => "time offset"
  | .array => "array"
  | .inlineTable => "inline table"

/-- What could have come. -/
inductive Expected where
  | symbol (t : Text)
  | lineBreak
  | digit
  | leadingDigit
  deriving DecidableEq, Repr

/-- The name of what could have come. -/
def Expected.name : Expected → Text
  | .symbol t => '`' :: t ++ ['`']
  | .lineBreak => "newline"
  | .digit => "digit"
  | .leadingDigit => "leading digit"

/-- What is wrong with something that has the right form. -/
inductive Cause where
  | outOfRange
  | tooLarge
  | tooSmall
  | tooDeep
  /-- A key that is there already, and the path of its table where that is told. -/
  | repeatedKey (key : Text) (table : Option (List Text))
  /-- A path that leads into a value of another kind than a table. -/
  | noTable (path : List Text) (kind : Text)
  deriving DecidableEq, Repr

/-- The message of a cause. -/
def Cause.message : Cause → Text
  | .outOfRange => "value is out of range"
  | .tooLarge => "number too large to fit in target type"
  | .tooSmall => "number too small to fit in target type"
  | .tooDeep => "recursion limit exceeded"
  | .repeatedKey key none => "duplicate key `" ++ key ++ "`"
  | .repeatedKey key (some []) => "duplicate key `" ++ key ++ "` in document root"
  | .repeatedKey key (some path) =>
    "duplicate key `" ++ key ++ "` in table `" ++ Text.join ['.'] path ++ "`"
  | .noTable path kind =>
    "dotted key `" ++ Text.join ['.'] path ++ "` attempted to extend non-table type (" ++ kind
      ++ ")"

/-- What stopped a reader. -/
structure Fault where
  /-- The bytes that were unread. -/
  unread : Nat
  subject : Option Subject
  expected : List Expected
  cause : Option Cause
  /-- Does the fault rule out that something of another form is read instead? -/
  isFinal : Bool
  deriving DecidableEq, Repr

namespace Fault

/-- What came in front of `rest` is followed by something that cannot follow. -/
def before (rest : Text) : Fault := ⟨Text.byteLength rest, none, [], none, false⟩

/-- Something is wrong with what stands at the start of `t`. -/
def because (t : Text) (cause : Cause) : Fault := ⟨Text.byteLength t, none, [], some cause, false⟩

/-- The fault with what was being read, unless a part of it is already named. -/
def within (subject : Subject) (fault : Fault) : Fault :=
  { fault with subject := fault.subject.or (some subject) }

/-- The fault with more that could have come. -/
def expecting (expected : List Expected) (fault : Fault) : Fault :=
  { fault with expected := fault.expected ++ expected }

/-- The fault where nothing else can be tried. -/
def final (fault : Fault) : Fault := { fault with isFinal := true }

/-- The message, without its place: up to three lines, of which any may be missing. -/
def message (fault : Fault) : Text :=
  let subject (subject : Subject) : Text := "invalid " ++ subject.name
  let expected : Text := "expected " ++ Text.join ", " (fault.expected.map Expected.name)
  Text.join ['\n'] <|
    fault.subject.toList.map subject ++ (if fault.expected.isEmpty then [] else [expected])
      ++ fault.cause.toList.map Cause.message

end Fault

/-! ## 3. Reading -/

/-- A reader gives a value and the rest, or tells why the text does not begin with one. -/
abbrev Reader (α : Type) := Text → Except Fault (α × Text)

namespace Reader

variable {α : Type}

/-- The reader whose faults name what was being read. -/
def within (subject : Subject) (read : Reader α) : Reader α := fun t =>
  (read t).mapError (Fault.within subject)

/-- The reader whose faults name what could have come. -/
def expecting (expected : List Expected) (read : Reader α) : Reader α := fun t =>
  (read t).mapError (Fault.expecting expected)

/-- The reader instead of which nothing else may be tried. -/
def final (read : Reader α) : Reader α := fun t => (read t).mapError Fault.final

/-- What the first reader reads, or else the second, unless the fault of the first is
final. -/
def orElse (read other : Reader α) : Reader α := fun t =>
  match read t with
  | .ok found => .ok found
  | .error fault => if fault.isFinal then .error fault else other t

/-- What is read if it is there; nothing is taken where it is not. -/
def optional (read : Reader α) : Reader (Option α) := fun t =>
  match read t with
  | .ok (x, rest) => .ok (some x, rest)
  | .error fault => if fault.isFinal then .error fault else .ok (none, t)

/-- More values, each behind a separator. A separator that no value follows is not
taken. `fuel` bounds their number. -/
def separatedFrom (separator : Char) (read : Reader α) : (fuel : Nat) → Reader (List α)
  | 0, t => .ok ([], t)
  | fuel + 1, t =>
    match t with
    | [] => .ok ([], [])
    | c :: rest =>
      if c = separator then
        match read rest with
        | .ok (x, rest) => do
          let (xs, rest) ← separatedFrom separator read fuel rest
          .ok (x :: xs, rest)
        | .error fault => if fault.isFinal then .error fault else .ok ([], c :: rest)
      else .ok ([], c :: rest)

/-- Values with a separator between them, of which there is at least one. -/
def separated (separator : Char) (read : Reader α) : Reader (List α) := fun t => do
  let (x, rest) ← read t
  let (xs, rest) ← separatedFrom separator read rest.length rest
  .ok (x :: xs, rest)

/-- Exactly the given text. -/
def exactly (expected : Text) : Reader Unit := fun t =>
  match expected.isPrefixOf? t with
  | some rest => .ok ((), rest)
  | none => .error (.before t)

end Reader

/-! ## 4. Reports -/

/-- A message about a part of the source. -/
structure Problem where
  span : Span
  message : Text
  deriving DecidableEq, Repr

namespace Problem

/-- The text from the start of its last line on. -/
def lastLine (t : Text) : Text := (t.reverse.takeWhile (· != '\n')).reverse

/-- The number of line feeds. -/
def lineFeeds (t : Text) : Nat := t.count '\n'

/-- The characters of the first bytes of a text. -/
def firstBytes : (count : Nat) → Text → Text
  | _, [] => []
  | count, c :: rest =>
    if count < c.utf8Size then [] else c :: firstBytes (count - c.utf8Size) rest

/-- The line and the column of a byte, both counted from zero. The column counts
characters; in front of a character of several bytes it counts bytes. The end of the
source stands behind its last character, on the same line. -/
def position (source : Text) (offset : Nat) : Nat × Nat :=
  let front := firstBytes offset source
  match source.drop front.length with
  | c :: _ =>
    let line := lastLine front
    (lineFeeds front, if c.utf8Size = 1 then line.length else Text.byteLength line)
  | [] =>
    match front.getLast? with
    | none => (0, 0)
    | some _ => (lineFeeds front.dropLast, (lastLine front.dropLast).length + 1)

/-- The problem with its place: the line with the part of it underlined, and the
message. -/
def report (source : Text) (problem : Problem) : Text :=
  let (line, column) := position source (Text.byteLength source - problem.span.first)
  let content := (Text.splitOn '\n' source).getD line []
  let marks := max 1 (min problem.span.size (Text.byteLength content - column))
  let number := Text.ofNat (line + 1)
  let gutter := Text.spaces (number.length + 1) ++ ['|']
  "TOML parse error at line " ++ number ++ ", column " ++ Text.ofNat (column + 1) ++ ['\n']
    ++ gutter ++ ['\n']
    ++ number ++ " | " ++ content ++ ['\n']
    ++ gutter ++ Text.spaces (column + 1) ++ List.replicate marks '^' ++ ['\n']
    ++ problem.message ++ ['\n']

/-- The problem that a fault is: it concerns the character at its place. -/
def ofFault (source : Text) (fault : Fault) : Problem :=
  let front := firstBytes (Text.byteLength source - fault.unread) source
  let size := ((source.drop front.length).head?.map Char.utf8Size).getD 0
  ⟨⟨fault.unread, fault.unread - size⟩, fault.message⟩

end Problem

end MarkupDesk.Toml
