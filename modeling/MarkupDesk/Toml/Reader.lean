/-
`Toml/Reader.lean` -- from a text to the statements of a TOML document.

A document is a list of statements: headers, which open a table, and pairs of a dotted
key and a value. What the statements mean together is the matter of `Toml/Assembly`; so
reading a document gives the statements up to the first fault, and that fault. Arrays
may run over several lines and hold comments; tables in braces may not.
-/
import MarkupDesk.Toml.Scalar

set_option autoImplicit false

namespace MarkupDesk.Toml

/-- One part of a key, and where it stands. -/
structure Key where
  name : Text
  span : Span
  deriving DecidableEq, Repr

/-- The parts of a dotted key, of which there is at least one. -/
structure KeyPath where
  /-- The parts before the last one. -/
  outer : List Key
  last : Key
  deriving DecidableEq, Repr

namespace KeyPath

/-- All parts. -/
def parts (path : KeyPath) : List Key := path.outer ++ [path.last]

/-- The first part. -/
def head (path : KeyPath) : Key := path.outer.headD path.last

/-- The names of the parts. -/
def names (path : KeyPath) : List Text := path.parts.map Key.name

end KeyPath

/-- A statement of a document. -/
inductive Statement where
  /-- The header of a table. -/
  | header (path : KeyPath) (span : Span)
  /-- The header of one more table of an array of tables. -/
  | repeatedHeader (path : KeyPath) (span : Span)
  | pair (path : KeyPath) (value : Toml) (span : Span)
  deriving Repr

/-- The number of parts that a dotted key must stay below, and of brackets that may not
stand inside one another. -/
def depthLimit : Nat := 80

/-! ## 1. Keys -/

/-- The name of one part of a key. -/
def readKeyName : Reader Text
  | [] => .error (.before [])
  | c :: rest =>
    if c = '"' then readBasic rest
    else if c = '\'' then readLiteral rest
    else
      let name := (c :: rest).takeWhile isKeyChar
      if name.isEmpty then .error (.before (c :: rest))
      else .ok (name, (c :: rest).dropWhile isKeyChar)

/-- One part of a key between blanks. -/
def readKeyPart : Reader Key := fun t => do
  let t := skipBlanks t
  let (name, rest) ← readKeyName t
  .ok (⟨name, .between t rest⟩, skipBlanks rest)

/-- A dotted key. -/
def readKey : Reader KeyPath := fun t => do
  let (parts, rest) ← ((Reader.separated '.' readKeyPart).within .key) t
  match parts.getLast? with
  | none => .error (.before t)
  | some last =>
    if parts.length < depthLimit then .ok (⟨parts.dropLast, last⟩, rest)
    else .error (.because t .tooDeep)

/-! ## 2. Members of tables -/

/-- The cause that a value under the last of these parts of a key is no table. -/
def noTable (way : List Key) (kind : Text) : Cause := .noTable (way.map Key.name) kind

/-- The members with a value put in at a dotted key, of which the parts `way` lead here.
Tables that are missing are made; a table that was opened otherwise than by a dotted key
is not entered last, and one with a header of its own or in braces not at all. -/
def insertAt (value : Toml) (span : Span) (key : Key) (table : Option (List Text)) :
    (way outer : List Key) → Members → Except Cause Members
  | _, [], members =>
    if hasKey members key.name then .error (.repeatedKey key.name table)
    else .ok (members ++ [(key.name, ⟨key.span, some span, value⟩)])
  | way, part :: outer, members =>
    let way := way ++ [part]
    match Dictionary.get? members part.name with
    | none => do
      let inner ← insertAt value span key table way outer []
      .ok (members ++ [(part.name, ⟨part.span, none, .table .dotted inner⟩)])
    | some ⟨place, shown, .table .dotted inner⟩ => do
      let inner ← insertAt value span key table way outer inner
      .ok (Dictionary.insert members part.name ⟨place, shown, .table .dotted inner⟩)
    | some ⟨place, shown, .table .implied inner⟩ =>
      if outer.isEmpty then .error (.repeatedKey key.name none)
      else do
        let inner ← insertAt value span key table way outer inner
        .ok (Dictionary.insert members part.name ⟨place, shown, .table .implied inner⟩)
    | some ⟨_, _, .table .header _⟩ => .error (.repeatedKey part.name none)
    | some ⟨_, _, .table .inlined _⟩ =>
      if table.isNone then .error (.repeatedKey part.name none)
      else .error (noTable way "inline table")
    | some ⟨place, shown, .tables items⟩ =>
      match items.getLast? with
      | none => .error (.repeatedKey key.name none)
      | some inner =>
        if outer.isEmpty then .error (.repeatedKey key.name none)
        else do
          let inner ← insertAt value span key table way outer inner
          .ok (Dictionary.insert members part.name
            ⟨place, shown, .tables (items.dropLast ++ [inner])⟩)
    | some placed => .error (noTable way placed.value.kindName)

/-! ## 3. Values -/

/-- The text behind a comment, if there is one. -/
def skipComment : Text → Text
  | '#' :: rest => rest.dropWhile isPlainChar
  | t => t

/-- A line break. -/
def readLineBreak : Reader Unit
  | '\n' :: rest => .ok ((), rest)
  | '\r' :: rest =>
    match rest with
    | '\n' :: rest => .ok ((), rest)
    | rest => .error (.before rest)
  | t => .error (.before t)

/-- The text behind white space, line breaks and comments. `fuel` bounds the number of
lines. -/
def skipLines : (fuel : Nat) → Reader Unit
  | 0, t => .ok ((), t)
  | fuel + 1, t =>
    match skipBlanks t with
    | [] => .ok ((), [])
    | c :: rest =>
      if c = '#' ∨ c = '\n' ∨ c = '\r' then do
        let (_, rest) ← readLineBreak (skipComment (c :: rest))
        skipLines fuel rest
      else .ok ((), c :: rest)

/-- The text from its next token in an array on. -/
def nextToken : Reader Unit := fun t => skipLines (t.length + 1) t

/-- An item of an array, with the lines around it. -/
def readItem (value : Reader Toml) : Reader Toml := fun t => do
  let (_, t) ← nextToken t
  let (item, t) ← value t
  let (_, rest) ← nextToken t
  .ok (item, rest)

/-- The items of an array and the comma that may follow the last one. -/
def readItems (value : Reader Toml) : Reader (List Toml) := fun t =>
  match t with
  | ']' :: rest => .ok ([], ']' :: rest)
  | t => do
    let (items, t) ← (Reader.separated ',' (readItem value)).optional t
    let t :=
      match items, t with
      | some _, ',' :: rest => rest
      | _, t => t
    let (_, rest) ← nextToken t
    .ok (items.getD [], rest)

/-- An array, read behind its opening bracket. -/
def readArray (value : Reader Toml) : Reader Toml := Reader.final fun t => do
  let (items, t) ← readItems value t
  let (_, rest) ← (((readMark ']').within .array).expecting [.symbol [']']]) t
  .ok (.array items, rest)

/-- A value, with blanks before it, and where it stands. -/
def readSpanned (value : Reader Toml) : Reader (Toml × Span) := fun t => do
  let t := skipBlanks t
  let (x, rest) ← value t
  .ok ((x, .between t rest), rest)

/-- The `=` behind a key, which more parts of the key could precede. -/
def readEquals : Reader Unit := (readMark '=').expecting [.symbol ['.'], .symbol ['=']]

/-- A key with a value in a table. -/
structure Pair where
  path : KeyPath
  value : Toml
  span : Span
  deriving Repr

/-- A key and its value with `=` between them; behind the value comes `ending`. -/
def readPair (value : Reader Toml) (ending : Reader Unit) : Reader Pair := fun t => do
  let (path, t) ← readKey t
  let (_, t) ← readEquals.final t
  let ((x, span), t) ← (readSpanned value).final t
  let (_, rest) ← ending.final t
  .ok (⟨path, x, span⟩, rest)

/-- Blanks, of which there may be none. -/
def readBlanks : Reader Unit := fun t => .ok ((), skipBlanks t)

/-- The members of a table in braces. -/
def inlineMembers (pairs : List Pair) : Except Cause Members :=
  pairs.foldlM (fun members pair =>
    insertAt pair.value pair.span pair.path.last none [] pair.path.outer members) []

/-- A table in braces, read behind its opening brace. -/
def readInlined (value : Reader Toml) : Reader Toml := Reader.final fun t => do
  let (pairs, behind) ← (Reader.separated ',' (readPair value readBlanks)).optional t
  match inlineMembers (pairs.getD []) with
  | .error cause => .error (.because t cause)
  | .ok members =>
    let close := ((readMark '\x7d').within .inlineTable).expecting [.symbol ['\x7d']]
    let (_, rest) ← close (skipBlanks behind)
    .ok (.table .inlined members, rest)

/-- A fixed name and its value. What is no name counts as a string without quotes. -/
def readName (name : Text) (value : Toml) : Reader Toml := fun t =>
  ((Reader.exactly name).within .string).expecting [.symbol ['"'], .symbol ['\'']] t
    |>.map fun read => (value, read.2)

/-- A number or a point in time. -/
def readNumber : Reader Toml := readTime.orElse (readFloat.orElse readInteger)

/-- A value; `depth` brackets may stand inside one another. -/
def readValue : (depth : Nat) → Reader Toml
  | _, [] => .error (.before [])
  | depth, c :: rest =>
    if c = '"' ∨ c = '\'' then
      (readString (c :: rest)).map fun read => (.string read.1, read.2)
    else if c = '[' then
      match depth with
      | 0 => .error (Fault.because (c :: rest) .tooDeep).final
      | depth + 1 => readArray (readValue depth) rest
    else if c = '\x7b' then
      match depth with
      | 0 => .error (Fault.because (c :: rest) .tooDeep).final
      | depth + 1 => readInlined (readValue depth) rest
    else if c = '+' ∨ c = '-' ∨ c.isDigit then readNumber (c :: rest)
    else if c = '_' then (Reader.expecting [.leadingDigit] readInteger) (c :: rest)
    else if c = '.' then (Reader.expecting [.leadingDigit] readFloat) (c :: rest)
    else if c = 't' then (readName "true" (.boolean true)).final (c :: rest)
    else if c = 'f' then (readName "false" (.boolean false)).final (c :: rest)
    else if c = 'i' then readName "inf" (.float (.infinite false)) (c :: rest)
    else readName "nan" (.float .notNumber) (c :: rest)

/-! ## 4. Documents -/

/-- The end of a line or of the text. -/
def readEnd : Reader Unit
  | [] => .ok ((), [])
  | t =>
    match newline? t with
    | some rest => .ok ((), rest)
    | none => .error (.before t)

/-- The end of a line, which may have a comment. -/
def readLineEnd : Reader Unit :=
  Reader.expecting [.lineBreak, .symbol ['#']] fun t => readEnd (skipComment (skipBlanks t))

/-- The key of a header between its brackets, and where the header stands. -/
def readHeader (opening closing : Text) : Reader (KeyPath × Span) :=
  Reader.within .tableHeader fun t => do
    let (_, behind) ← Reader.exactly opening t
    let (path, behind) ← readKey behind
    let close := (Reader.exactly closing).expecting [.symbol ['.'], .symbol closing]
    let (_, behind) ← close behind
    let (_, rest) ← readLineEnd behind
    .ok ((path, .between t behind), rest)

/-- The statement at the start of a text, if there is one on its line. -/
def readStatement : Reader (Option Statement)
  | '[' :: '[' :: rest =>
    (readHeader "[[" "]]" ('[' :: '[' :: rest)).map fun read =>
      (some (.repeatedHeader read.1.1 read.1.2), read.2)
  | ['['] => .error ((Fault.before ['[']).within .tableHeader)
  | '[' :: rest =>
    (readHeader "[" "]" ('[' :: rest)).map fun read =>
      (some (.header read.1.1 read.1.2), read.2)
  | '#' :: rest => (readEnd (skipComment ('#' :: rest))).map fun read => (none, read.2)
  | t =>
    match newline? t with
    | some rest => .ok (none, rest)
    | none =>
      if t.head? = some '\r' then .error (.before t)
      else
        (readPair (readValue (depthLimit - 1)) readLineEnd t).map fun read =>
          (some (.pair read.1.path read.1.value read.1.span), read.2)

/-- The statements of a document up to the first fault, and that fault. `fuel` bounds the
number of lines. -/
def readStatements : (fuel : Nat) → Text → List Statement × Option Fault
  | 0, _ => ([], none)
  | fuel + 1, t =>
    match skipBlanks t with
    | [] => ([], none)
    | t =>
      match readStatement t with
      | .error fault => ([], some fault)
      | .ok (statement, rest) =>
        let (statements, fault) := readStatements fuel rest
        (statement.toList ++ statements, fault)

/-- The document without the byte order mark that it may begin with. -/
def dropByteOrderMark : Text → Text
  | '\uFEFF' :: rest => rest
  | t => t

/-- The statements that a text is made of up to the first fault, and that fault. -/
def statements (source : Text) : List Statement × Option Fault :=
  let t := dropByteOrderMark source
  readStatements (t.length + 1) t

end MarkupDesk.Toml
