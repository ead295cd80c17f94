/-
`Number/Binary64.lean` -- finite doubles, computed exactly.

A finite double is a sign, a mantissa below 2^53 and a power of two. Every
operation computes its exact result as a quotient of naturals and rounds once, to
the nearest double and to an even mantissa on a tie (`ofRatio?`); a magnitude
beyond the largest double has no result.
-/
import MarkupDesk.Number.Power

set_option autoImplicit false

namespace MarkupDesk.Number

/-- A finite double: `mantissa * 2 ^ exponent`, with its sign. Zero has a sign too. -/
structure Binary64 where
  negative : Bool
  mantissa : Nat
  exponent : Int
  deriving DecidableEq, Repr

/-- The natural number nearest to `num / den`; a tie goes to the even one. -/
def roundDiv (num den : Nat) : Nat :=
  let q := num / den
  let r := num % den
  if 2 * r < den then q
  else if den < 2 * r then q + 1
  else q + q % 2

namespace Binary64

/-- The least exponent: that of the numbers next to zero. -/
def minExponent : Int := -1074

/-- The greatest exponent of a finite double. -/
def maxExponent : Int := 971

/-- Zero with the given sign. -/
def zero (negative : Bool) : Binary64 := ⟨negative, 0, minExponent⟩

/-- Is the value zero, of either sign? -/
def isZero (x : Binary64) : Bool := x.mantissa == 0

/-- The value with the sign turned when `flip` holds. -/
def negateIf (flip : Bool) (x : Binary64) : Binary64 := { x with negative := x.negative != flip }

/-- The magnitude as a quotient of naturals. -/
def ratio (x : Binary64) : Nat × Nat :=
  (x.mantissa * pow2 x.exponent.toNat, pow2 (-x.exponent).toNat)

/-- The double nearest to `num / den`, if the magnitude is not too large. The
exponent is the one for which the quotient has 53 binary digits, and not less
than the least. -/
def ofRatio? (negative : Bool) (num den : Nat) : Option Binary64 :=
  if num = 0 then some (zero negative)
  else
    let guess : Int := (num.log2 : Int) - (den.log2 : Int) - 52
    let scaled (e : Int) : Nat × Nat := (num * pow2 (-e).toNat, den * pow2 e.toNat)
    let full := (scaled guess).1 / (scaled guess).2
    let exponent := max minExponent (if full < pow2 52 then guess - 1 else guess)
    let mantissa := roundDiv (scaled exponent).1 (scaled exponent).2
    let rounded : Binary64 :=
      if mantissa = pow2 53 then ⟨negative, pow2 52, exponent + 1⟩
      else ⟨negative, mantissa, exponent⟩
    if maxExponent < rounded.exponent then none else some rounded

/-- The double nearest to a natural number. -/
def ofNat? (n : Nat) : Option Binary64 := ofRatio? false n 1

/-- The product, rounded once. -/
def mul? (x y : Binary64) : Option Binary64 :=
  ofRatio? (x.negative != y.negative) (x.ratio.1 * y.ratio.1) (x.ratio.2 * y.ratio.2)

/-- The quotient, rounded once; the divisor must not be zero. -/
def div? (x y : Binary64) : Option Binary64 :=
  ofRatio? (x.negative != y.negative) (x.ratio.1 * y.ratio.2) (x.ratio.2 * y.ratio.1)

/-- The greatest natural number below `2 ^ bits` that is `root` in its higher digits
and whose square is not above `n`. -/
def rootFrom (n : Nat) : (bits : Nat) → (root : Nat) → Nat
  | 0, root => root
  | bits + 1, root =>
    let next := root + pow2 bits
    rootFrom n bits (if next * next ≤ n then next else root)

/-- The square root rounded down. -/
def natRoot (n : Nat) : Nat := rootFrom n (n.log2 / 2 + 1) 0

/-- The square root of the magnitude, rounded once. The mantissa is widened until
its root has more digits than a double; what the root leaves over counts as one
more digit below those. -/
def sqrt? (x : Binary64) : Option Binary64 :=
  if x.isZero then some x
  else
    let shift : Nat := if x.exponent % 2 = 0 then 128 else 129
    let wide := x.mantissa * pow2 shift
    let root := natRoot wide
    let sticky := if root * root = wide then 2 * root else 2 * root + 1
    let exponent := (x.exponent - (shift : Int)) / 2 - 1
    ofRatio? false (sticky * pow2 exponent.toNat) (pow2 (-exponent).toNat)

/-- The magnitude rounded down. -/
def floor (x : Binary64) : Nat := x.ratio.1 / x.ratio.2

end Binary64

end MarkupDesk.Number
