/-
`Toml/Assembly.lean` -- from statements to the table they describe.

The pairs before the first header belong to the outermost table, those behind a header
to the table that it opens. A table can be opened by a header once; where it came to be
only because a table inside it was opened, that does not count, and it moves to the end.

Of a fault in a statement and a statement that does not fit those before it, the one
that comes first in the document is told (`parse`).
-/
import MarkupDesk.Toml.Printer
import MarkupDesk.Toml.Reader

set_option autoImplicit false

namespace MarkupDesk.Toml

/-- The members with the pairs put in, one after the other; `path` is that of their
table. -/
def insertPairs (path : List Text) (pairs : List Pair) (members : Members) :
    Except Fault Members :=
  pairs.foldlM (fun members pair =>
    (insertAt pair.value pair.span pair.path.last (some path) [] pair.path.outer members).mapError
      fun cause => ⟨pair.path.head.span.first, none, [], some cause, true⟩) members

/-- A header: its path, and where it stands. -/
structure Header where
  path : KeyPath
  span : Span
  deriving DecidableEq, Repr

namespace Header

/-- The fault of a header that does not fit the statements before it. -/
def fault (header : Header) (cause : Cause) : Fault :=
  ⟨header.span.first, some .tableHeader, [], some cause, true⟩

/-- The part of the source that the table of a header takes up. -/
def extent (header : Header) (pairs : List Pair) : Span :=
  match pairs.getLast? with
  | none => header.span
  | some pair => header.span.upTo pair.span

/-- The fault that the table of a header is there already. -/
def repeated (header : Header) : Fault :=
  header.fault
    (.repeatedKey (keyText header.path.last.name) (some (header.path.outer.map Key.name)))

end Header

/-- The members with what stands under the parts of a header's path changed. Tables that
are missing are made; of an array of tables, the last one is entered. The parts `way`
lead here. -/
def changeAt (header : Header) (change : Members → Except Fault Members) :
    (way path : List Key) → Members → Except Fault Members
  | _, [], members => change members
  | way, part :: path, members =>
    let way := way ++ [part]
    match Dictionary.get? members part.name with
    | none => do
      let inner ← changeAt header change way path []
      .ok (members ++ [(part.name, ⟨part.span, none, .table .implied inner⟩)])
    | some ⟨_, _, .table .inlined _⟩ => .error (header.fault (noTable way "inline table"))
    | some ⟨place, shown, .table origin inner⟩ => do
      let inner ← changeAt header change way path inner
      .ok (Dictionary.insert members part.name ⟨place, shown, .table origin inner⟩)
    | some ⟨place, shown, .tables items⟩ =>
      match items.getLast? with
      | none => .error header.repeated
      | some inner => do
        let inner ← changeAt header change way path inner
        .ok (Dictionary.insert members part.name
          ⟨place, shown, .tables (items.dropLast ++ [inner])⟩)
    | some placed => .error (header.fault (noTable way placed.value.kindName))

/-- A table opened by a header, with its pairs. -/
def openTable (header : Header) (pairs : List Pair) (members : Members) :
    Except Fault Members :=
  let key := header.path.last
  let names := header.path.names
  let extent := some (header.extent pairs)
  match Dictionary.get? members key.name with
  | none => do
    let inner ← insertPairs names pairs []
    .ok (members ++ [(key.name, ⟨key.span, extent, .table .header inner⟩)])
  | some ⟨_, _, .table .implied inner⟩ => do
    let inner ← insertPairs names pairs inner
    .ok (Dictionary.erase members key.name ++
      [(key.name, ⟨key.span, extent, .table .header inner⟩)])
  | some _ => .error header.repeated

/-- One more table of an array of tables, with its pairs. -/
def openRepeated (header : Header) (pairs : List Pair) (members : Members) :
    Except Fault Members :=
  let key := header.path.last
  let names := header.path.names
  let extent := header.extent pairs
  match Dictionary.get? members key.name with
  | none => do
    let inner ← insertPairs names pairs []
    .ok (members ++ [(key.name, ⟨key.span, some extent, .tables [inner]⟩)])
  | some ⟨place, shown, .tables items⟩ => do
    let inner ← insertPairs names pairs []
    let shown := shown.map (·.upTo extent)
    .ok (Dictionary.insert members key.name ⟨place, shown, .tables (items ++ [inner])⟩)
  | some _ => .error header.repeated

/-- The pairs up to the next header, and the statements from there on. -/
def takePairs : List Statement → List Pair × List Statement
  | .pair path value span :: statements =>
    let (pairs, rest) := takePairs statements
    (⟨path, value, span⟩ :: pairs, rest)
  | statements => ([], statements)

/-- The members after the statements, which begin with a header. `fuel` bounds the number
of headers. -/
def addTables : (fuel : Nat) → List Statement → Members → Except Fault Members
  | 0, _, members => .ok members
  | _ + 1, [], members => .ok members
  | fuel + 1, .header path span :: statements, members => do
    let (pairs, rest) := takePairs statements
    let header : Header := ⟨path, span⟩
    addTables fuel rest (← changeAt header (openTable header pairs) [] path.outer members)
  | fuel + 1, .repeatedHeader path span :: statements, members => do
    let (pairs, rest) := takePairs statements
    let header : Header := ⟨path, span⟩
    addTables fuel rest (← changeAt header (openRepeated header pairs) [] path.outer members)
  | fuel + 1, .pair _ _ _ :: statements, members => addTables fuel statements members

/-- The outermost table of the statements. -/
def assemble (statements : List Statement) : Except Fault Members := do
  let (pairs, rest) := takePairs statements
  addTables (statements.length + 1) rest (← insertPairs [] pairs [])

/-- The outermost table of the document that a text is. -/
def parse (source : Text) : Except Fault Members := do
  let (statements, fault) := statements source
  let members ← assemble statements
  match fault with
  | none => .ok members
  | some fault => .error fault

end MarkupDesk.Toml
