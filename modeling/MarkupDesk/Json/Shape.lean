/-
`Json/Shape.lean` -- records in JSON.

A record is written as an object, or as the array of its fields in order. Its
`Shape` says how each field is read and what happens when a field is missing; the
fields read so far are collected in `σ`. A problem of the record as a whole (a
field given twice, a field missing, too few items) is placed where reading stands
after an attempt to close its bracket.
-/
import MarkupDesk.Json.Reader

set_option autoImplicit false

namespace MarkupDesk.Json

/-- One field of a record: its name, whether it was read, how it is read, and what
an array does that ends in front of it. -/
structure Field (σ : Type) where
  name : Text
  isSet : σ → Bool
  read : σ → Reader σ
  /-- Has the field a value of its own when an array ends in front of it? -/
  fillable : Bool

/-- How a record is read. -/
structure Shape (σ α : Type) where
  /-- The record's name in messages. -/
  expected : Text
  start : σ
  fields : List (Field σ)
  /-- The record of the fields that were read, or the problem with them. -/
  finish : σ → Except Problem α

/-- A field that holds what `reader` reads. -/
def Field.make {σ α : Type} (name : Text) (get : σ → Option α) (set : σ → α → σ)
    (reader : Reader α) (fillable : Bool) : Field σ where
  name := name
  isSet state := (get state).isSome
  read state := fun depth t => do
    let (x, rest) ← reader depth t
    return (set state x, rest)
  fillable := fillable

/-- Why the fields of a record could not be read: a fault that has its place, or a
problem of the record that has none yet, with the rest where it arose. -/
inductive RecordError where
  | placed (fault : Fault)
  | unplaced (problem : Problem) (rest : Text)

namespace Shape

variable {σ α : Type}

/-- A fault that already has its place. -/
def placed {β : Type} (result : Except Fault β) : Except RecordError β :=
  result.mapError .placed

/-- The members of an object, up to its closing brace. Members that are no fields
are skipped. -/
def readFields (shape : Shape σ α) (depth : Nat) :
    (fuel : Nat) → (first : Bool) → σ → Text → Except RecordError (σ × Text)
  | 0, _, state, t => .ok (state, t)
  | fuel + 1, first, state, t => do
    match ← placed (nextName first t) with
    | none => return (state, t)
    | some t =>
      let (name, t) ← placed (readString t)
      match shape.fields.find? (fun field => field.name = name) with
      | none =>
        let t ← placed (do skipValue (← readColon t))
        readFields shape depth fuel false state t
      | some field =>
        if field.isSet state then throw (.unplaced (.repeatedField name) t)
        let (state, t) ← placed (do field.read state depth (← readColon t))
        readFields shape depth fuel false state t

/-- The items of an array, one for each field in order. -/
def readPositions (shape : Shape σ α) (depth : Nat) :
    (index : Nat) → List (Field σ) → σ → Text → Except RecordError (σ × Text)
  | _, [], state, t => .ok (state, t)
  | index, field :: fields, state, t => do
    match ← placed (nextItem (index == 0) t) with
    | some t =>
      let (state, t) ← placed (field.read state depth t)
      readPositions shape depth (index + 1) fields state t
    | none =>
      if field.fillable then readPositions shape depth (index + 1) fields state t
      else
        throw (.unplaced (.wrongLength index (shape.expected ++ " with "
          ++ Text.ofNat shape.fields.length ++ " elements")) t)

/-- The record of the fields that were read in front of `rest`. -/
def finishAt (shape : Shape σ α) (read : σ × Text) : Except RecordError (α × Text) :=
  match shape.finish read.1 with
  | .ok x => .ok (x, read.2)
  | .error problem => .error (.unplaced problem read.2)

/-- A record, as an object or as an array. -/
def reader (shape : Shape σ α) : Reader α := fun depth t =>
  match skipSpace t with
  | [] => .error (.before .unfinishedValue [])
  | c :: rest =>
    let opened (read : Nat → Except RecordError (α × Text)) (close : Text → Except Fault Text)
        (afterAttempt : Text → Text) : Except Fault (α × Text) :=
      match depth with
      | 0 => .error (.reading .tooDeep (c :: rest))
      | depth + 1 =>
        match read depth with
        | .ok (x, rest) => do return (x, ← close rest)
        | .error (.placed fault) => .error fault
        | .error (.unplaced problem rest) => .error (.before problem (afterAttempt rest))
    if c = '{' then
      opened (fun depth => do
          shape.finishAt (← shape.readFields depth (rest.length + 1) true shape.start rest))
        closeObject afterObjectAttempt
    else if c = '[' then
      opened (fun depth => do
          shape.finishAt (← shape.readPositions depth 0 shape.fields shape.start rest))
        closeList afterListAttempt
    else .error (kindFault shape.expected (c :: rest))

end Shape

end MarkupDesk.Json
