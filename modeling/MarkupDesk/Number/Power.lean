/-
`Number/Power.lean` -- powers of natural numbers.

The two bases that numbers are written and stored in.
-/

set_option autoImplicit false

namespace MarkupDesk.Number

/-- The power of two with this exponent. -/
def pow2 (exponent : Nat) : Nat := Nat.pow 2 exponent

/-- The power of ten with this exponent. -/
def pow10 (exponent : Nat) : Nat := Nat.pow 10 exponent

end MarkupDesk.Number
