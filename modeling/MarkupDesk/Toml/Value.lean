/-
`Toml/Value.lean` -- TOML values.

A table remembers how it came to be, because that decides what may still be added to
it. Each member remembers where its key and its value stand, so that what is wrong with
it can be shown. Points in time are checked when they are read, but not kept: nothing
here asks for them.
-/
import MarkupDesk.Dictionary
import MarkupDesk.Number.Notation
import MarkupDesk.Text.Quoted
import MarkupDesk.Toml.Problem

set_option autoImplicit false

namespace MarkupDesk

/-- How a table came to be. -/
inductive TableOrigin where
  /-- By a header of its own. -/
  | header
  /-- By the header of a table inside it. -/
  | implied
  /-- By a dotted key. -/
  | dotted
  /-- As a value in braces. -/
  | inlined
  deriving DecidableEq, Repr

namespace Toml

/-- A number with a fraction or an exponent. -/
inductive Real where
  | finite (value : Number.Binary64)
  | infinite (negative : Bool)
  | notNumber
  deriving DecidableEq, Repr

/-- A value and where it was found. -/
structure Placed (α : Type) where
  /-- Where its key stands. -/
  key : Span
  /-- Where it stands itself, if it is written in one piece. -/
  span : Option Span
  value : α
  deriving Repr

/-- The part of the source to show for the value. -/
def Placed.shown {α : Type} (placed : Placed α) : Span := placed.span.getD placed.key

end Toml

/-- A TOML value. -/
inductive Toml where
  | string (value : Text)
  | integer (value : Int)
  | boolean (value : Bool)
  | float (value : Toml.Real)
  | time
  | array (items : List Toml)
  | table (origin : TableOrigin) (members : List (Text × Toml.Placed Toml))
  /-- The tables of repeated headers. -/
  | tables (items : List (List (Text × Toml.Placed Toml)))
  deriving Repr

namespace Toml

/-- The members of a table. -/
abbrev Members := Dictionary Text (Placed Toml)

/-- Is there a member with this key? -/
def hasKey (members : Members) (key : Text) : Bool := (Dictionary.get? members key).isSome

/-- The name of the kind of a value. -/
def kindName : Toml → Text
  | .string _ => "string"
  | .integer _ => "integer"
  | .boolean _ => "boolean"
  | .float _ => "float"
  | .time => "datetime"
  | .array _ => "array"
  | .table .inlined _ => "inline table"
  | .table _ _ => "table"
  | .tables _ => "array of tables"

/-- Numbers are described without exponents and with at least one digit behind the
point. -/
def Real.layout : Number.Layout := ⟨-400, 400, ['.', '0'], []⟩

/-- The text of a number. -/
def Real.text : Real → Text
  | .finite value => Real.layout.formatDouble value
  | .infinite false => "inf"
  | .infinite true => "-inf"
  | .notNumber => "NaN"

/-- How a value is described where another kind was expected: the kind, and the value
itself when it is a scalar. -/
def described : Toml → Text
  | .string value => "string " ++ Text.quoted value
  | .integer value => "integer `" ++ Text.ofInt value ++ "`"
  | .boolean value => "boolean `" ++ (if value then "true" else "false" : Text) ++ "`"
  | .float value => "floating point `" ++ value.text ++ "`"
  | .array _ => "sequence"
  | .tables _ => "sequence"
  | .time => "map"
  | .table _ _ => "map"

end Toml

end MarkupDesk
