/-
`Number/Notation.lean` -- laying out the digits of a decimal.

Which digits to write is one question (`Number/Shortest.lean`), where to put the
point is another. The second is a record of decisions, so that an output format
states its own in one value.
-/
import MarkupDesk.Text.Basic
import MarkupDesk.Number.Shortest

set_option autoImplicit false

namespace MarkupDesk.Number

/-- How a decimal is laid out. `point` below is the place of the decimal point,
counted from the first digit: 1 for 1.5, 0 for 0.15. -/
structure Layout where
  /-- The least place of the point that is written without an exponent. -/
  positionalFrom : Int
  /-- The greatest such place. -/
  positionalTo : Int
  /-- What a whole number ends with. -/
  wholeSuffix : Text
  /-- The sign of a positive exponent. -/
  exponentPlus : Text

/-- The digits with a point behind the first, unless there is only one. -/
def pointAfterFirst : Text → Text
  | [] => []
  | [d] => [d]
  | d :: ds => d :: '.' :: ds

/-- A decimal laid out. -/
def Layout.format (layout : Layout) (d : Decimal) : Text :=
  let digits := Text.ofNat d.digits
  let point : Int := digits.length + d.scale
  if d.digits = 0 then '0' :: layout.wholeSuffix
  else if layout.positionalFrom ≤ point ∧ point ≤ layout.positionalTo then
    if 0 ≤ d.scale then digits ++ List.replicate d.scale.toNat '0' ++ layout.wholeSuffix
    else if 0 < point then digits.take point.toNat ++ '.' :: digits.drop point.toNat
    else '0' :: '.' :: List.replicate (-point).toNat '0' ++ digits
  else
    let exponent := point - 1
    pointAfterFirst digits ++ 'e' ::
      (if 0 ≤ exponent then layout.exponentPlus else []) ++ Text.ofInt exponent

/-- A double laid out with the fewest digits that identify it. -/
def Layout.formatDouble (layout : Layout) (x : Binary64) : Text :=
  (if x.negative then ['-'] else []) ++ layout.format x.shortest

end MarkupDesk.Number
