/-
`Number/Shortest.lean` -- the fewest decimal digits that identify a double.

The reals that round to a double form an interval, whose ends belong to it when
the mantissa is even. For one digit, two digits and so on, the two neighbours of
the double on that decimal grid are tested; the first grid with a hit wins and of
two hits the nearer. Everything is exact arithmetic on naturals.
-/
import MarkupDesk.Number.Binary64

set_option autoImplicit false

namespace MarkupDesk.Number

/-- A decimal `digits * 10 ^ scale`. -/
structure Decimal where
  digits : Nat
  scale : Int
  deriving DecidableEq, Repr

namespace Decimal

/-- The same decimal without trailing zeros among its digits. -/
def strip (fuel : Nat) (d : Decimal) : Decimal :=
  match fuel with
  | 0 => d
  | fuel + 1 =>
    if d.digits ≠ 0 ∧ d.digits % 10 = 0 then strip fuel ⟨d.digits / 10, d.scale + 1⟩ else d

end Decimal

/-- The reals that round to a double, in quarters of the last binary place. -/
structure RoundingInterval where
  low : Nat
  value : Nat
  high : Nat
  /-- The exponent of two of a quarter. -/
  exponent : Int
  /-- Do the ends round to the double as well? -/
  closed : Bool

/-- The interval of a double that is not zero. Below a power of two the gap to
the next double is half as wide. -/
def Binary64.interval (x : Binary64) : RoundingInterval :=
  let v := 4 * x.mantissa
  let narrow := x.mantissa = pow2 52 ∧ Binary64.minExponent < x.exponent
  { low := if narrow then v - 1 else v - 2
    value := v
    high := v + 2
    exponent := x.exponent - 2
    closed := x.mantissa % 2 = 0 }

/-- `n` quarters and `m * 10 ^ scale` over a common denominator. -/
def RoundingInterval.scaled (i : RoundingInterval) (scale : Int) (n m : Nat) : Nat × Nat :=
  (n * pow2 i.exponent.toNat * pow10 (-scale).toNat,
    m * pow10 scale.toNat * pow2 (-i.exponent).toNat)

/-- Does the decimal round to the double? -/
def RoundingInterval.readsBack (i : RoundingInterval) (d : Decimal) : Bool :=
  let below := i.scaled d.scale i.low d.digits
  let above := i.scaled d.scale i.high d.digits
  if i.closed then below.1 ≤ below.2 && above.2 ≤ above.1
  else below.1 < below.2 && above.2 < above.1

/-- The greatest multiple of `10 ^ scale` that is not above the double. -/
def RoundingInterval.floorAt (i : RoundingInterval) (scale : Int) : Nat :=
  i.value * pow2 i.exponent.toNat * pow10 (-scale).toNat
    / (pow2 (-i.exponent).toNat * pow10 scale.toNat)

/-- The decimal on the grid `10 ^ scale` that rounds to the double and is nearest
to it, if there is one; of two equally near ones the even one. -/
def RoundingInterval.pick? (i : RoundingInterval) (scale : Int) : Option Decimal :=
  let n := i.floorAt scale
  let lower : Decimal := ⟨n, scale⟩
  let upper : Decimal := ⟨n + 1, scale⟩
  match i.readsBack lower, i.readsBack upper with
  | true, false => some lower
  | false, true => some upper
  | false, false => none
  | true, true =>
    let twice := i.scaled scale (2 * i.value) (2 * n + 1)
    if twice.1 < twice.2 then some lower
    else if twice.2 < twice.1 then some upper
    else if n % 2 = 0 then some lower else some upper

/-- The least `k` with the double below `10 ^ k`, searched downwards from `k`. -/
def RoundingInterval.magnitude (i : RoundingInterval) : (fuel : Nat) → (k : Int) → Int
  | 0, k => k
  | fuel + 1, k => if i.floorAt (k - 1) = 0 then magnitude i fuel (k - 1) else k

/-- The shortest decimal, searched from `digits` digits on; after seventeen the
grid is fine enough for every double. -/
def RoundingInterval.search (i : RoundingInterval) (magnitude : Int) :
    (fuel : Nat) → (digits : Nat) → Decimal
  | 0, digits => ⟨i.floorAt (magnitude - digits), magnitude - digits⟩
  | fuel + 1, digits =>
    match i.pick? (magnitude - digits) with
    | some d => d
    | none => search i magnitude fuel (digits + 1)

/-- The fewest digits that read back to the magnitude of the double, and of those
the nearest to it. -/
def Binary64.shortest (x : Binary64) : Decimal :=
  if x.isZero then ⟨0, 0⟩
  else
    let i := x.interval
    (i.search (i.magnitude 640 310) 17 1).strip 20

end MarkupDesk.Number
