/-
`Json/Reader.lean` -- reading JSON values.

A reader takes the number of levels that may still be opened and the unread text.
`value` reads a value, `skip` reads one away without looking into it; the two
accept the same brackets, but a value that is skipped is not limited in depth, its
numbers may be out of range and its escapes need not form characters.
-/
import MarkupDesk.Json.Token

set_option autoImplicit false

namespace MarkupDesk.Json

/-- A reader of something: from the levels that may still be opened and the unread
text to a result and the rest. -/
def Reader (α : Type) : Type := (depth : Nat) → Text → Except Fault (α × Text)

/-- The number of arrays and objects that may stand inside one another. -/
def maxDepth : Nat := 127

/-! ## 1. Values -/

/-- The items of an array up to its closing bracket, each read by `item`. -/
def readItems {α : Type} (item : Text → Except Fault (α × Text)) :
    (fuel : Nat) → (first : Bool) → Text → Except Fault (List α × Text)
  | 0, _, t => .ok ([], t)
  | fuel + 1, first, t => do
    match ← nextItem first t with
    | none => return ([], t)
    | some t =>
      let (x, t) ← item t
      let (xs, t) ← readItems item fuel false t
      return (x :: xs, t)

/-- The members of an object up to its closing brace; a name that comes again
keeps its place and takes the new value. -/
def readMembers {α : Type} (member : Text → Except Fault (α × Text)) :
    (fuel : Nat) → (first : Bool) → Dictionary Text α → Text →
      Except Fault (Dictionary Text α × Text)
  | 0, _, members, t => .ok (members, t)
  | fuel + 1, first, members, t => do
    match ← nextName first t with
    | none => return (members, t)
    | some t =>
      let (name, t) ← readString t
      let t ← readColon t
      let (x, t) ← member t
      readMembers member fuel false (Dictionary.insert members name x) t

/-- Any value. -/
def readValue : Reader Json
  | depth, t =>
    match skipSpace t with
    | [] => .error (.before .unfinishedValue [])
    | c :: rest =>
      if c = 'n' then do return (.null, ← readName ['u', 'l', 'l'] rest)
      else if c = 't' then do return (.bool true, ← readName ['r', 'u', 'e'] rest)
      else if c = 'f' then do return (.bool false, ← readName ['a', 'l', 's', 'e'] rest)
      else if c = '-' then do
        let (n, rest) ← readNumber true rest
        return (.number n, rest)
      else if c.isDigit then do
        let (n, rest) ← readNumber false (c :: rest)
        return (.number n, rest)
      else if c = '"' then do
        let (text, rest) ← readString rest
        return (.string text, rest)
      else if c = '[' then
        match depth with
        | 0 => .error (.reading .tooDeep (c :: rest))
        | depth + 1 => do
          let (items, rest) ← readItems (readValue depth) (rest.length + 1) true rest
          return (.array items, ← closeList rest)
      else if c = '{' then
        match depth with
        | 0 => .error (.reading .tooDeep (c :: rest))
        | depth + 1 => do
          let (members, rest) ← readMembers (readValue depth) (rest.length + 1) true [] rest
          return (.object members, ← closeObject rest)
      else .error (.reading .expectedValue (c :: rest))

/-! ## 2. Skipping -/

/-- The rest behind a string that is skipped. -/
def skipStringWithin : (fuel : Nat) → Text → Except Fault Text
  | 0, t => .error (.before .unfinishedString t)
  | _ + 1, [] => .error (.before .unfinishedString [])
  | fuel + 1, c :: rest =>
    if c = '"' then .ok rest
    else if c = '\\' then
      match rest with
      | [] => .error (.before .unfinishedString [])
      | e :: rest =>
        if (simpleEscape? e).isSome then skipStringWithin fuel rest
        else if e = 'u' then do skipStringWithin fuel (← readHexQuad rest).2
        else .error (.reading .invalidEscape (e :: rest))
    else if c.toNat < 0x20 then .error (.before .controlCharacter (c :: rest))
    else skipStringWithin fuel rest

/-- The rest behind a string, read behind its opening quote. -/
def skipString (t : Text) : Except Fault Text := skipStringWithin (t.length + 1) t

/-- The rest behind the exponent of a number, read behind the `e`. -/
def skipExponent (t : Text) : Except Fault Text :=
  let t : Text :=
    match t with
    | '+' :: rest => rest
    | '-' :: rest => rest
    | rest => rest
  match t with
  | [] => .error (.before .invalidNumber [])
  | c :: rest =>
    if c.isDigit then .ok (rest.dropWhile Char.isDigit)
    else .error (.reading .invalidNumber (c :: rest))

/-- The rest behind a fraction, read behind the point, and an exponent. -/
def skipFraction (t : Text) : Except Fault Text :=
  match t with
  | [] => .error (.before .invalidNumber [])
  | c :: _ =>
    if c.isDigit then
      match t.dropWhile Char.isDigit with
      | 'e' :: rest => skipExponent rest
      | 'E' :: rest => skipExponent rest
      | rest => .ok rest
    else .error (.reading .invalidNumber t)

/-- The rest behind a number, from its first digit on. -/
def skipNumber (t : Text) : Except Fault Text :=
  match t with
  | [] => .error (.before .invalidNumber [])
  | c :: rest =>
    if c.isDigit then
      let rest := if c = '0' then rest else rest.dropWhile Char.isDigit
      if c = '0' ∧ rest.head?.any Char.isDigit then .error (.reading .invalidNumber rest)
      else
        match rest with
        | '.' :: fraction => skipFraction fraction
        | 'e' :: rest => skipExponent rest
        | 'E' :: rest => skipExponent rest
        | rest => .ok rest
    else .error (.reading .invalidNumber (c :: rest))

/-- A bracket that is open. -/
inductive Bracket where
  | list
  | object
  deriving DecidableEq, Repr

namespace Bracket

/-- The character that closes the bracket. -/
def closing : Bracket → Char
  | list => ']'
  | object => '}'

/-- What is wrong with a text that ends inside the bracket. -/
def unfinished : Bracket → Problem
  | list => .unfinishedList
  | object => .unfinishedObject

/-- What is wrong with a value that is followed by neither a comma nor the end. -/
def expectedSeparator : Bracket → Problem
  | list => .expectedListSeparator
  | object => .expectedObjectSeparator

/-- The rest where the value of the next item or member begins. -/
def skipToValue : Bracket → Text → Except Fault Text
  | list, t => .ok t
  | object, t =>
    match skipSpace t with
    | [] => .error (.before .unfinishedObject [])
    | c :: rest =>
      if c = '"' then do readColon (← skipString rest)
      else .error (.reading .keyNotString (c :: rest))

end Bracket

/-- Where skipping stands. -/
inductive SkipState where
  /-- In front of a value. -/
  | value
  /-- Behind an opening bracket, or, if `complete`, behind a value inside one. -/
  | inside (complete : Bool)

/-- The rest behind the value that ends when all open brackets are closed. `fuel`
bounds the number of steps: every second one reads a character. -/
def skipWithin : (fuel : Nat) → SkipState → List Bracket → Text → Except Fault Text
  | 0, _, _, t => .ok t
  | fuel + 1, .value, brackets, t =>
    let done (rest : Text) : Except Fault Text :=
      if brackets.isEmpty then .ok rest else skipWithin fuel (.inside true) brackets rest
    match skipSpace t with
    | [] => .error (.before .unfinishedValue [])
    | c :: rest =>
      if c = 'n' then do done (← readName ['u', 'l', 'l'] rest)
      else if c = 't' then do done (← readName ['r', 'u', 'e'] rest)
      else if c = 'f' then do done (← readName ['a', 'l', 's', 'e'] rest)
      else if c = '-' then do done (← skipNumber rest)
      else if c.isDigit then do done (← skipNumber (c :: rest))
      else if c = '"' then do done (← skipString rest)
      else if c = '[' then skipWithin fuel (.inside false) (.list :: brackets) rest
      else if c = '{' then skipWithin fuel (.inside false) (.object :: brackets) rest
      else .error (.reading .expectedValue (c :: rest))
  | _ + 1, .inside _, [], t => .ok t
  | fuel + 1, .inside complete, bracket :: brackets, t =>
    match skipSpace t with
    | [] => .error (.before bracket.unfinished [])
    | c :: rest =>
      if complete ∧ c = ',' then do
        skipWithin fuel .value (bracket :: brackets) (← bracket.skipToValue rest)
      else if c = bracket.closing then
        if brackets.isEmpty then .ok rest else skipWithin fuel (.inside true) brackets rest
      else if complete then .error (.reading bracket.expectedSeparator (c :: rest))
      else do skipWithin fuel .value (bracket :: brackets) (← bracket.skipToValue (c :: rest))

/-- The rest behind a value of any kind. -/
def skipValue (t : Text) : Except Fault Text := skipWithin (2 * t.length + 2) .value [] t

/-! ## 3. Values of one kind -/

/-- The kind of the value that `t` begins with, and the rest in front of which a
message about it places the fault: a scalar counts as read, a bracket does not. -/
def readFound (t : Text) : Except Fault (Found × Text) :=
  match t with
  | [] => .error (.reading .expectedValue [])
  | c :: rest =>
    if c = 'n' then do return (.null, ← readName ['u', 'l', 'l'] rest)
    else if c = 't' then do return (.bool true, ← readName ['r', 'u', 'e'] rest)
    else if c = 'f' then do return (.bool false, ← readName ['a', 'l', 's', 'e'] rest)
    else if c = '-' then do
      let (n, rest) ← readNumber true rest
      return (.number n, rest)
    else if c.isDigit then do
      let (n, rest) ← readNumber false (c :: rest)
      return (.number n, rest)
    else if c = '"' then do
      let (text, rest) ← readString rest
      return (.string text, rest)
    else if c = '[' then .ok (.sequence, c :: rest)
    else if c = '{' then .ok (.map, c :: rest)
    else .error (.reading .expectedValue (c :: rest))

/-- The fault of a value that is not of the expected kind. -/
def kindFault (expected : Text) (t : Text) : Fault :=
  match readFound t with
  | .ok (found, rest) => .before (.wrongKind found expected) rest
  | .error fault => fault

/-- A string. -/
def Reader.string : Reader Text := fun _ t =>
  match skipSpace t with
  | [] => .error (.before .unfinishedValue [])
  | c :: rest => if c = '"' then readString rest else .error (kindFault "a string" (c :: rest))

/-- `null`, or what the reader reads. -/
def Reader.optional {α : Type} (reader : Reader α) : Reader (Option α) := fun depth t =>
  match skipSpace t with
  | 'n' :: rest => do return (none, ← readName ['u', 'l', 'l'] rest)
  | t => do
    let (x, rest) ← reader depth t
    return (some x, rest)

/-- An array whose items are read by `item`. -/
def Reader.list {α : Type} (item : Reader α) : Reader (List α) := fun depth t =>
  match skipSpace t with
  | [] => .error (.before .unfinishedValue [])
  | c :: rest =>
    if c = '[' then
      match depth with
      | 0 => .error (.reading .tooDeep (c :: rest))
      | depth + 1 => do
        let (items, rest) ← readItems (item depth) (rest.length + 1) true rest
        return (items, ← closeList rest)
    else .error (kindFault "a sequence" (c :: rest))

/-- An object whose members are read by `member`. -/
def Reader.dictionary {α : Type} (member : Reader α) : Reader (Dictionary Text α) := fun depth t =>
  match skipSpace t with
  | [] => .error (.before .unfinishedValue [])
  | c :: rest =>
    if c = '{' then
      match depth with
      | 0 => .error (.reading .tooDeep (c :: rest))
      | depth + 1 => do
        let (members, rest) ← readMembers (member depth) (rest.length + 1) true [] rest
        return (members, ← closeObject rest)
    else .error (kindFault "a map" (c :: rest))

/-- What `parse` makes of a string; its problem lies behind the string. -/
def Reader.parsed {α : Type} (expected : Text) (parse : Text → Except Problem α) : Reader α :=
  fun _ t =>
    match skipSpace t with
    | [] => .error (.before .unfinishedValue [])
    | c :: rest =>
      if c = '"' then do
        let (text, rest) ← readString rest
        match parse text with
        | .ok x => return (x, rest)
        | .error problem => throw (.before problem rest)
      else .error (kindFault expected (c :: rest))

/-- A natural number below `bound`. -/
def Reader.natBelow (bound : Nat) (expected : Text) : Reader Nat := fun _ t =>
  match skipSpace t with
  | [] => .error (.before .unfinishedValue [])
  | t => do
    let (found, rest) ← readFound t
    match found with
    | .number (.integer value) =>
      if 0 ≤ value ∧ value < bound then return (value.toNat, rest)
      else throw (.before (.wrongValue found expected) rest)
    | _ => throw (.before (.wrongKind found expected) rest)

/-! ## 4. Whole texts -/

/-- What a reader makes of a whole text. -/
def Reader.run {α : Type} (reader : Reader α) (source : Text) : Except Fault α := do
  let (x, rest) ← reader maxDepth source
  readEnd rest
  return x

/-- The value that a text is. -/
def parse (source : Text) : Except Fault Json := Reader.run readValue source

end MarkupDesk.Json
