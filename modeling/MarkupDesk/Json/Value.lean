/-
`Json/Value.lean` -- JSON values.

Objects keep the order of their members. A number is an integer when it was
written as one and fits 64 bits, else a finite double.
-/
import MarkupDesk.Dictionary
import MarkupDesk.Number.Notation

set_option autoImplicit false

namespace MarkupDesk

open Number (Binary64)

/-- A JSON number. -/
inductive JsonNumber where
  /-- A whole number from -2^63 to 2^64 - 1. -/
  | integer (value : Int)
  /-- Any other number, as the nearest double. -/
  | double (value : Binary64)
  deriving DecidableEq, Repr

namespace JsonNumber

/-- Doubles are written with the fewest digits that identify them, from 1e-5 up to
1e16 without an exponent, and a whole one with `.0`. -/
def layout : Number.Layout := ⟨-4, 16, ['.', '0'], ['+']⟩

/-- The number as it is written. -/
def toText : JsonNumber → Text
  | .integer value => Text.ofInt value
  | .double value => layout.formatDouble value

/-- Is the number zero, of either sign? -/
def isZero : JsonNumber → Bool
  | .integer value => value == 0
  | .double value => value.isZero

end JsonNumber

/-- A JSON value. -/
inductive Json where
  | null
  | bool (value : Bool)
  | number (value : JsonNumber)
  | string (value : Text)
  | array (items : List Json)
  | object (members : List (Text × Json))
  deriving Repr

namespace Json

instance : Inhabited Json := ⟨.null⟩

/-- The member of an object with the given name. -/
def member? (name : Text) : Json → Option Json
  | .object members => Dictionary.get? members name
  | _ => none

end Json

end MarkupDesk
