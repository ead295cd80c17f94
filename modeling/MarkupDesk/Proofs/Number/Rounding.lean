/-
`Proofs/Number/Rounding.lean` -- how far a rounded result is from the exact one.

Every operation on doubles rounds once. For results of ordinary size, that changes the value by
a factor that is next to one (`exists_ofRatio?`): the mantissa is a rounded quotient of at least
2^51, and rounding moves it by a half at most. The factors are counted and not computed: a value
is `Near n` another one if `n` of them lie between the two, and products, quotients and chains
of values add up their counts.
-/
import Mathlib.Algebra.Order.Field.Power
import Mathlib.Data.Nat.Cast.Order.Field
import Mathlib.Data.Nat.Sqrt
import Mathlib.Data.Rat.Cast.Order
import Mathlib.Tactic.FieldSimp
import Mathlib.Tactic.Linarith
import Mathlib.Tactic.NormNum
import Mathlib.Tactic.Positivity
import Mathlib.Tactic.Ring
import MarkupDesk.Number.Binary64

set_option autoImplicit false

namespace MarkupDesk.Number

/-! ## 1. Counted factors -/

/-- The factor that stands for one rounding. -/
def slack : ℚ := 1 + 1 / 2 ^ 51

theorem slack_pos (n : Nat) : 0 < slack ^ n := by
  unfold slack
  positivity

/-- Two positive values with `n` roundings between them. -/
structure Near (n : Nat) (x y : ℚ) : Prop where
  pos : 0 < y
  le : x ≤ y * slack ^ n
  ge : y ≤ x * slack ^ n

namespace Near

variable {m n : Nat} {x x' y y' z : ℚ}

theorem refl (hx : 0 < x) : Near 0 x x := by
  refine ⟨hx, ?_, ?_⟩
  · rw [pow_zero, mul_one]
  · rw [pow_zero, mul_one]

/-- An error of one part of 2^51 is as good as a rounding. -/
theorem of_error (error : ℚ) (hy : 0 < y) (habove : x ≤ y + error) (hbelow : y ≤ x + error)
    (hxpart : error * 2 ^ 51 ≤ x) (hypart : error * 2 ^ 51 ≤ y) : Near 1 x y := by
  refine ⟨hy, ?_, ?_⟩
  · rw [pow_one, slack]
    linarith
  · rw [pow_one, slack]
    linarith

theorem pos_left (h : Near n x y) : 0 < x :=
  (mul_pos_iff_of_pos_right (slack_pos n)).1 (h.pos.trans_le h.ge)

/-- The counts of two steps add up. -/
theorem trans (h : Near m x y) (h' : Near n y z) : Near (m + n) x z := by
  refine ⟨h'.pos, ?_, ?_⟩
  · calc
      x ≤ y * slack ^ m := h.le
      _ ≤ z * slack ^ n * slack ^ m := mul_le_mul_of_nonneg_right h'.le (slack_pos m).le
      _ = z * slack ^ (m + n) := by ring
  · calc
      z ≤ y * slack ^ n := h'.ge
      _ ≤ x * slack ^ m * slack ^ n := mul_le_mul_of_nonneg_right h.ge (slack_pos n).le
      _ = x * slack ^ (m + n) := by ring

/-- Products add up the counts of their factors. -/
theorem mul (h : Near m x y) (h' : Near n x' y') : Near (m + n) (x * x') (y * y') := by
  have hy := h.pos
  have hx := h.pos_left
  have hm := slack_pos m
  refine ⟨mul_pos h.pos h'.pos, ?_, ?_⟩
  · calc
      x * x' ≤ y * slack ^ m * (y' * slack ^ n) :=
        mul_le_mul h.le h'.le h'.pos_left.le (by positivity)
      _ = y * y' * slack ^ (m + n) := by ring
  · calc
      y * y' ≤ x * slack ^ m * (x' * slack ^ n) := mul_le_mul h.ge h'.ge h'.pos.le (by positivity)
      _ = x * x' * slack ^ (m + n) := by ring

theorem inv (h : Near n x y) : Near n x⁻¹ y⁻¹ := by
  have hx := h.pos_left
  have hy := h.pos
  refine ⟨inv_pos.2 h.pos, ?_, ?_⟩
  · rw [inv_le_iff_one_le_mul₀ hx, mul_right_comm, inv_mul_eq_div, div_mul_eq_mul_div,
      one_le_div hy]
    exact h.ge
  · rw [inv_le_iff_one_le_mul₀ hy, mul_right_comm, inv_mul_eq_div, div_mul_eq_mul_div,
      one_le_div hx]
    exact h.le

/-- Quotients add up the counts of their two parts. -/
theorem div (h : Near m x y) (h' : Near n x' y') : Near (m + n) (x / x') (y / y') := by
  rw [div_eq_mul_inv, div_eq_mul_inv]
  exact h.mul h'.inv

end Near

/-- Far from the least and from the greatest double. -/
structure Ordinary (x : ℚ) : Prop where
  ge : (2 : ℚ) ^ (-200 : Int) ≤ x
  le : x ≤ 2 ^ (200 : Int)

/-- So far from them that a few roundings do not matter. -/
structure Moderate (x : ℚ) : Prop where
  ge : 1 / 2 ^ 40 ≤ x
  le : x ≤ 2 ^ 40

/-- Twenty roundings do not double a value. This is all that the sizes below ask for. -/
theorem slack_pow_le {n : Nat} (hn : n ≤ 20) : slack ^ n ≤ 2 := by
  have hone : 1 ≤ slack := by
    unfold slack
    norm_num
  calc
    slack ^ n ≤ slack ^ 20 := pow_le_pow_right₀ hone hn
    _ ≤ 2 := by
      unfold slack
      norm_num

/-- What is near a value of moderate size is of ordinary size, and so the next rounding is an
ordinary one. -/
theorem Near.ordinary {n : Nat} {x y : ℚ} (h : Near n x y) (hn : n ≤ 20) (hy : Moderate y) :
    Ordinary x := by
  -- twenty roundings are off by a factor of less than two, which leaves the exponent far from its
  -- ends
  have hfactor := slack_pow_le hn
  constructor
  · have hge : 1 / 2 ^ 40 ≤ x * 2 := calc
      1 / 2 ^ 40 ≤ y := hy.ge
      _ ≤ x * slack ^ n := h.ge
      _ ≤ x * 2 := mul_le_mul_of_nonneg_left hfactor h.pos_left.le
    have htiny : (2 : ℚ) ^ (-200 : Int) ≤ 1 / 2 ^ 41 := by norm_num
    apply htiny.trans
    linarith
  · have hle : x ≤ 2 ^ 40 * 2 := calc
      x ≤ y * slack ^ n := h.le
      _ ≤ y * 2 := mul_le_mul_of_nonneg_left hfactor h.pos.le
      _ ≤ 2 ^ 40 * 2 := mul_le_mul_of_nonneg_right hy.le (by norm_num)
    have hhuge : (2 : ℚ) ^ 40 * 2 ≤ 2 ^ (200 : Int) := by norm_num
    exact hle.trans hhuge

/-- A number is at least as far from them as its square. -/
theorem Ordinary.of_square {x : ℚ} (hx : 0 < x) (h : Ordinary (x * x)) : Ordinary x := by
  have hsmall : (2 : ℚ) ^ (-200 : Int) ≤ 1 := by norm_num
  have hgreat : (1 : ℚ) ≤ 2 ^ (200 : Int) := by norm_num
  constructor
  · by_contra hlt
    have hless : x * x < 2 ^ (-200 : Int) * 1 :=
      mul_lt_mul'' (not_le.1 hlt) (by linarith) hx.le hx.le
    linarith [h.ge]
  · by_contra hgt
    have hmore : 2 ^ (200 : Int) * 1 < x * x :=
      mul_lt_mul'' (not_le.1 hgt) (by linarith) (by linarith) zero_le_one
    linarith [h.le]

/-! ## 2. Values -/

theorem pow2_eq (n : Nat) : (pow2 n : ℚ) = 2 ^ n := by
  simp [pow2]

theorem pow2_pos (n : Nat) : 0 < pow2 n := Nat.pow_pos (by decide)

/-- A power of two is written as a quotient without negative exponents. -/
theorem pow2_div_pow2 (e : Int) : (pow2 e.toNat : ℚ) / pow2 (-e).toNat = 2 ^ e := by
  rw [pow2_eq, pow2_eq]
  obtain ⟨n, rfl | rfl⟩ := e.eq_nat_or_neg
  · simp
  · simp

namespace Binary64

/-- The magnitude. -/
def value (x : Binary64) : ℚ := x.mantissa * 2 ^ x.exponent

/-- The value is taken without the sign, so it is not negative. -/
theorem value_nonneg (x : Binary64) : 0 ≤ x.value := by
  unfold value
  positivity

theorem ratio_eq_value (x : Binary64) : (x.ratio.1 : ℚ) / x.ratio.2 = x.value := by
  unfold ratio value
  rw [← pow2_div_pow2, Nat.cast_mul, mul_div_assoc]

theorem floor_le_value (x : Binary64) : (x.floor : ℚ) ≤ x.value := by
  rw [← ratio_eq_value]
  exact Nat.cast_div_le

end Binary64

/-! ## 3. One rounding -/

/-- The rounded quotient is a half away at most. -/
theorem abs_roundDiv_sub_le {den : Nat} (hden : 0 < den) (num : Nat) :
    |(roundDiv num den : ℚ) - num / den| ≤ 1 / 2 := by
  have hdivided : num / den * den + num % den = num := Nat.div_add_mod' num den
  have hrest := Nat.mod_lt num hden
  have hbounds : 2 * (roundDiv num den * den) ≤ 2 * num + den ∧
      2 * num ≤ 2 * (roundDiv num den * den) + den := by
    unfold roundDiv
    simp only
    split
    · omega
    split
    · rw [Nat.add_mul, Nat.one_mul]
      omega
    -- a tie: it is a half either way, whatever the parity is
    rw [Nat.add_mul]
    rcases Nat.mod_two_eq_zero_or_one (num / den) with heven | hodd
    · rw [heven, Nat.zero_mul]
      omega
    · rw [hodd, Nat.one_mul]
      omega
  have hpos : (0 : ℚ) < den := Nat.cast_pos.2 hden
  have habove : (2 : ℚ) * (roundDiv num den * den) ≤ 2 * num + den := by exact_mod_cast hbounds.1
  have hbelow : (2 : ℚ) * num ≤ 2 * (roundDiv num den * den) + den := by exact_mod_cast hbounds.2
  rw [sub_div' hpos.ne', abs_div, abs_of_pos hpos, div_le_iff₀ hpos, abs_le]
  constructor
  · linarith
  · linarith

/-- A power of two below a quotient, and one above. They are a factor of four apart, which is
near enough to choose the exponent by. -/
theorem quotient_bounds {num den : Nat} (hnum : 0 < num) (hden : 0 < den) :
    (2 : ℚ) ^ ((num.log2 : Int) - den.log2 - 1) ≤ num / den ∧
      (num : ℚ) / den ≤ 2 ^ ((num.log2 : Int) - den.log2 + 1) := by
  have hpos : (0 : ℚ) < den := Nat.cast_pos.2 hden
  -- each of the two is between two powers of two
  have hnumLow : (2 : ℚ) ^ num.log2 ≤ num := by
    exact_mod_cast Nat.log2_self_le (Nat.ne_of_gt hnum)
  have hnumHigh : (num : ℚ) ≤ 2 ^ (num.log2 + 1) := by exact_mod_cast Nat.lt_log2_self.le
  have hdenLow : (2 : ℚ) ^ den.log2 ≤ den := by
    exact_mod_cast Nat.log2_self_le (Nat.ne_of_gt hden)
  have hdenHigh : (den : ℚ) ≤ 2 ^ (den.log2 + 1) := by exact_mod_cast Nat.lt_log2_self.le
  rw [le_div_iff₀ hpos, div_le_iff₀ hpos]
  constructor
  · calc
      (2 : ℚ) ^ ((num.log2 : Int) - den.log2 - 1) * den
        ≤ 2 ^ ((num.log2 : Int) - den.log2 - 1) * 2 ^ (den.log2 + 1) :=
          mul_le_mul_of_nonneg_left hdenHigh (by positivity)
      _ = 2 ^ num.log2 := by
          rw [← zpow_natCast, ← zpow_natCast, ← zpow_add₀ two_ne_zero]
          congr 1
          push_cast
          ring
      _ ≤ num := hnumLow
  · calc
      (num : ℚ) ≤ 2 ^ (num.log2 + 1) := hnumHigh
      _ = 2 ^ ((num.log2 : Int) - den.log2 + 1) * 2 ^ den.log2 := by
          rw [← zpow_natCast, ← zpow_natCast, ← zpow_add₀ two_ne_zero]
          congr 1
          push_cast
          ring
      _ ≤ 2 ^ ((num.log2 : Int) - den.log2 + 1) * den :=
          mul_le_mul_of_nonneg_left hdenLow (by positivity)

/-- A mantissa of 52 digits or more is rounded by a factor next to one. -/
theorem near_of_scaled {num den : Nat} {e : Int} (hnum : 0 < num) (hden : 0 < den)
    (hlarge : (2 : ℚ) ^ 51 * 2 ^ e ≤ num / den) :
    Near 1 (roundDiv (num * pow2 (-e).toNat) (den * pow2 e.toNat) * 2 ^ e) (num / den) := by
  have hunit : (0 : ℚ) < 2 ^ e := by positivity
  have hquotient : (0 : ℚ) < num / den := div_pos (Nat.cast_pos.2 hnum) (Nat.cast_pos.2 hden)
  have herror := abs_roundDiv_sub_le (Nat.mul_pos hden (pow2_pos e.toNat))
    (num * pow2 (-e).toNat)
  have hscaled : ((num * pow2 (-e).toNat : ℕ) : ℚ) / (den * pow2 e.toNat : ℕ) =
      num / den / 2 ^ e := by
    rw [← pow2_div_pow2, Nat.cast_mul, Nat.cast_mul, mul_div_mul_comm, div_div_eq_mul_div,
      mul_div_assoc]
  rw [hscaled, abs_le] at herror
  generalize (roundDiv (num * pow2 (-e).toNat) (den * pow2 e.toNat) : ℚ) = mantissa at *
  -- in units of the last digit, the quotient is `2 ^ 51` or more, and the error a half
  have habove : mantissa * 2 ^ e ≤ num / den + 2 ^ e / 2 := by
    have hscale := mul_le_mul_of_nonneg_right herror.2 hunit.le
    rw [sub_mul, div_mul_cancel₀ _ hunit.ne'] at hscale
    linarith
  have hbelow : (num : ℚ) / den ≤ mantissa * 2 ^ e + 2 ^ e / 2 := by
    have hscale := mul_le_mul_of_nonneg_right herror.1 hunit.le
    rw [sub_mul, div_mul_cancel₀ _ hunit.ne'] at hscale
    linarith
  apply Near.of_error _ hquotient habove hbelow
  · linarith
  · linarith

/-- **A result of ordinary size is rounded by a factor next to one.** -/
theorem exists_ofRatio? {num den : Nat} (negative : Bool) (hnum : 0 < num) (hden : 0 < den)
    (hsize : Ordinary (num / den)) :
    ∃ x, Binary64.ofRatio? negative num den = some x ∧ Near 1 x.value (num / den) := by
  obtain ⟨hlow, hhigh⟩ := quotient_bounds hnum hden
  have hdigits : (-200 : Int) ≤ num.log2 - den.log2 + 1 :=
    (zpow_le_zpow_iff_right₀ one_lt_two).1 (hsize.ge.trans hhigh)
  have hdigits' : (num.log2 : Int) - den.log2 - 1 ≤ 200 :=
    (zpow_le_zpow_iff_right₀ one_lt_two).1 (hlow.trans hsize.le)
  unfold Binary64.ofRatio?
  rw [if_neg (Nat.ne_of_gt hnum)]
  simp only
  generalize hexponent : max Binary64.minExponent _ = e
  -- a result of this size is far from both ends of the exponents, so they do not cut digits off
  have he : e ≤ num.log2 - den.log2 - 52 ∧ e < 971 := by
    unfold Binary64.minExponent at hexponent
    split at hexponent
    · omega
    · omega
  have hlarge : (2 : ℚ) ^ 51 * 2 ^ e ≤ num / den := by
    rw [← zpow_natCast, ← zpow_add₀ two_ne_zero]
    apply le_trans _ hlow
    apply zpow_le_zpow_right₀ one_le_two
    push_cast
    omega
  have hnear := near_of_scaled hnum hden hlarge
  generalize roundDiv (num * pow2 (-e).toNat) (den * pow2 e.toNat) = mantissa at hnear ⊢
  split
  next hcarry =>
    -- rounded up to a power of two, it is written with the next exponent
    rw [if_neg (by simp only [Binary64.maxExponent]; omega)]
    have hsame : (pow2 52 : ℚ) * 2 ^ (e + 1) = mantissa * 2 ^ e := by
      rw [hcarry, pow2_eq, pow2_eq, zpow_add_one₀ two_ne_zero]
      ring
    refine ⟨_, rfl, ?_⟩
    rw [Binary64.value, hsame]
    exact hnear
  next =>
    rw [if_neg (by simp only [Binary64.maxExponent]; omega)]
    exact ⟨_, rfl, hnear⟩

/-! ## 4. The operations -/

namespace Binary64

variable {m n : Nat} {x y : Binary64} {a b : ℚ}

/-- A double that is not zero is a quotient of two positive numbers. -/
theorem ratio_pos (h : 0 < x.value) : 0 < x.ratio.1 ∧ 0 < x.ratio.2 := by
  have hden : 0 < x.ratio.2 := pow2_pos _
  refine ⟨?_, hden⟩
  rw [← ratio_eq_value, div_pos_iff_of_pos_right (Nat.cast_pos.2 hden)] at h
  exact Nat.cast_pos.1 h

/-- A whole number of moderate size is rounded once. -/
theorem exists_ofNat? (hn : 0 < n) (hsize : Moderate n) :
    ∃ x, ofNat? n = some x ∧ Near 1 x.value n := by
  have hquotient : (n : ℚ) / (1 : Nat) = n := by rw [Nat.cast_one, div_one]
  have hself : Near 0 (n : ℚ) n := .refl (Nat.cast_pos.2 hn)
  have hround := exists_ofRatio? false hn Nat.one_pos
    (by rw [hquotient]; exact hself.ordinary (Nat.zero_le 20) hsize)
  rwa [hquotient] at hround

/-- A product of ordinary size is rounded once. -/
theorem exists_mul? (hx : 0 < x.value) (hy : 0 < y.value) (hsize : Ordinary (x.value * y.value)) :
    ∃ z, mul? x y = some z ∧ Near 1 z.value (x.value * y.value) := by
  have hquotient : ((x.ratio.1 * y.ratio.1 : ℕ) : ℚ) / (x.ratio.2 * y.ratio.2 : ℕ) =
      x.value * y.value := by
    rw [← ratio_eq_value, ← ratio_eq_value, Nat.cast_mul, Nat.cast_mul, mul_div_mul_comm]
  have hround := exists_ofRatio? (x.negative != y.negative)
    (Nat.mul_pos (ratio_pos hx).1 (ratio_pos hy).1) (Nat.mul_pos (ratio_pos hx).2 (ratio_pos hy).2)
    (by rwa [hquotient])
  rwa [hquotient] at hround

/-- A quotient is rounded once, on top of what its two parts were rounded before. -/
theorem exists_div? (hx : Near m x.value a) (hy : Near n y.value b) (hcount : m + n ≤ 20)
    (hsize : Moderate (a / b)) :
    ∃ z, div? x y = some z ∧ Near (1 + (m + n)) z.value (a / b) := by
  have hquotient : ((x.ratio.1 * y.ratio.2 : ℕ) : ℚ) / (x.ratio.2 * y.ratio.1 : ℕ) =
      x.value / y.value := by
    rw [← ratio_eq_value, ← ratio_eq_value, Nat.cast_mul, Nat.cast_mul, div_div_div_eq]
  have hexact := hx.div hy
  obtain ⟨z, hz, hnear⟩ := exists_ofRatio? (x.negative != y.negative)
    (Nat.mul_pos (ratio_pos hx.pos_left).1 (ratio_pos hy.pos_left).2)
    (Nat.mul_pos (ratio_pos hx.pos_left).2 (ratio_pos hy.pos_left).1)
    (by rw [hquotient]; exact hexact.ordinary hcount hsize)
  rw [hquotient] at hnear
  exact ⟨z, hz, hnear.trans hexact⟩

/-- The digits are found from the first one on. -/
theorem rootFrom_eq {n bits root : Nat} (hlow : root * root ≤ n)
    (hhigh : n < (root + pow2 bits) * (root + pow2 bits)) : rootFrom n bits root = Nat.sqrt n := by
  induction bits generalizing root with
  | zero => exact Nat.eq_sqrt.2 ⟨hlow, hhigh⟩
  | succ bits ih =>
    have hdouble : pow2 (bits + 1) = pow2 bits + pow2 bits := by
      simp only [pow2, Nat.pow_eq]
      omega
    rw [hdouble, ← Nat.add_assoc] at hhigh
    rw [rootFrom]
    split
    next hnext => exact ih hnext hhigh
    next hnext => exact ih hlow (Nat.not_le.1 hnext)

/-- The root of a whole number that is found bit by bit is the whole part of its root. -/
theorem natRoot_eq (n : Nat) : natRoot n = Nat.sqrt n := by
  apply rootFrom_eq (Nat.zero_le n)
  have hbits : n.log2 + 1 ≤ (n.log2 / 2 + 1) + (n.log2 / 2 + 1) := by omega
  calc
    n < 2 ^ (n.log2 + 1) := Nat.lt_log2_self
    _ ≤ 2 ^ ((n.log2 / 2 + 1) + (n.log2 / 2 + 1)) := Nat.pow_le_pow_right Nat.two_pos hbits
    _ = (0 + pow2 (n.log2 / 2 + 1)) * (0 + pow2 (n.log2 / 2 + 1)) := by
      rw [Nat.pow_add, Nat.zero_add]
      rfl

/-- The root, with one more binary digit that says whether anything is left over. -/
def stickyRoot (wide : Nat) : Nat :=
  if Nat.sqrt wide * Nat.sqrt wide = wide then 2 * Nat.sqrt wide else 2 * Nat.sqrt wide + 1

/-- That digit is a half, which is near enough to what is left over if the root is large. -/
theorem near_stickyRoot {wide : Nat} (hwide : 2 ^ 128 ≤ wide) :
    Near 1 (stickyRoot wide / 2 * (stickyRoot wide / 2)) wide := by
  have hroot : (2 : ℚ) ^ 64 ≤ Nat.sqrt wide := by exact_mod_cast Nat.le_sqrt.2 hwide
  have hlow : (Nat.sqrt wide : ℚ) * Nat.sqrt wide ≤ wide := by exact_mod_cast Nat.sqrt_le wide
  have hhigh : (wide : ℚ) ≤ (Nat.sqrt wide + 1) * (Nat.sqrt wide + 1) := by
    exact_mod_cast (Nat.lt_succ_sqrt wide).le
  have hpos : (0 : ℚ) < wide := by
    apply Nat.cast_pos.2
    omega
  unfold stickyRoot
  split
  next hexact =>
    have hsquare : ((2 * Nat.sqrt wide : ℕ) : ℚ) / 2 * ((2 * Nat.sqrt wide : ℕ) / 2) = wide := by
      rw [Nat.cast_mul, Nat.cast_two, mul_div_cancel_left₀ _ two_ne_zero]
      exact_mod_cast hexact
    rw [hsquare]
    apply Near.of_error 0 hpos
    all_goals linarith
  next =>
    push_cast
    generalize (Nat.sqrt wide : ℚ) = root at *
    have hgrowth : 2 ^ 64 * root ≤ root * root :=
      mul_le_mul_of_nonneg_right hroot (by linarith)
    have hsquare : (2 * root + 1) / 2 * ((2 * root + 1) / 2) = root * root + root + 1 / 4 := by
      ring
    -- both squares are between those of the root and of the next number, so twice the root apart
    rw [hsquare]
    apply Near.of_error (2 * root) hpos
    all_goals linarith

/-- The root is taken of the value itself, written with a large mantissa and an even exponent.
The exponent is made even by shifting the mantissa one place more where it has to be. -/
theorem exists_radicand (hx : 0 < x.value) :
    ∃ (wide : Nat) (k : Int), 2 ^ 128 ≤ wide ∧ (wide : ℚ) * (2 ^ k * 2 ^ k) = x.value ∧
      sqrt? x = ofRatio? false (stickyRoot wide * pow2 (k - 1).toNat)
        (pow2 (-(k - 1)).toNat) := by
  have hmantissa : 0 < x.mantissa := by
    apply Nat.pos_of_ne_zero
    intro hzero
    rw [value, hzero, Nat.cast_zero, zero_mul] at hx
    exact lt_irrefl _ hx
  have hnonzero : ¬ x.isZero = true := by
    rw [isZero, beq_iff_eq]
    exact Nat.ne_of_gt hmantissa
  unfold sqrt?
  rw [if_neg hnonzero]
  simp only [natRoot_eq]
  generalize hshift : (if x.exponent % 2 = 0 then 128 else 129 : Nat) = shift
  -- either shift leaves an even exponent
  obtain ⟨hwider, heven⟩ : 128 ≤ shift ∧
      x.exponent = 2 * ((x.exponent - shift) / 2) + shift := by
    split at hshift
    · omega
    · omega
  refine ⟨x.mantissa * pow2 shift, (x.exponent - shift) / 2, ?_, ?_, rfl⟩
  · calc
      2 ^ 128 ≤ 2 ^ shift := Nat.pow_le_pow_right Nat.two_pos hwider
      _ ≤ x.mantissa * pow2 shift := Nat.le_mul_of_pos_left _ hmantissa
  · generalize (x.exponent - (shift : Int)) / 2 = k at heven ⊢
    rw [value, heven, Nat.cast_mul, pow2_eq, zpow_add₀ two_ne_zero, two_mul,
      zpow_add₀ two_ne_zero, zpow_natCast]
    ring

/-- A root is rounded once, which counts twice when it is squared, and its sticky last place
counts once. -/
theorem exists_sqrt? (hx : Near n x.value a) (hcount : n < 20) (hsize : Moderate a) :
    ∃ z, sqrt? x = some z ∧ Near (n + 3) (z.value * z.value) a := by
  obtain ⟨wide, k, hwide, hvalue, hsqrt⟩ := exists_radicand hx.pos_left
  have hunit : (0 : ℚ) < 2 ^ k := by positivity
  have hquotient : ((stickyRoot wide * pow2 (k - 1).toNat : ℕ) : ℚ) / pow2 (-(k - 1)).toNat =
      stickyRoot wide / 2 * 2 ^ k := by
    rw [Nat.cast_mul, mul_div_assoc, pow2_div_pow2, zpow_sub_one₀ two_ne_zero]
    ring
  have hroot : Near (1 + n) (stickyRoot wide / 2 * 2 ^ k * (stickyRoot wide / 2 * 2 ^ k)) a := by
    have hscaled := (near_stickyRoot hwide).mul (.refl (mul_pos hunit hunit))
    rw [hvalue, ← mul_mul_mul_comm] at hscaled
    exact hscaled.trans hx
  have hpos : 0 < stickyRoot wide := by
    apply Nat.pos_of_ne_zero
    intro hzero
    have hsquare := hroot.pos_left
    rw [hzero, Nat.cast_zero, zero_div, zero_mul, zero_mul] at hsquare
    exact lt_irrefl _ hsquare
  -- only the square is known to be near to something, so the size of the root comes from there
  have hordinary : Ordinary (stickyRoot wide / 2 * 2 ^ k : ℚ) := by
    apply Ordinary.of_square (by positivity)
    exact hroot.ordinary (by omega) hsize
  obtain ⟨z, hz, hnear⟩ := exists_ofRatio? false (Nat.mul_pos hpos (pow2_pos (k - 1).toNat))
    (pow2_pos (-(k - 1)).toNat) (by rwa [hquotient])
  rw [hquotient] at hnear
  have hsquare := (hnear.mul hnear).trans hroot
  rw [show 1 + 1 + (1 + n) = n + 3 by omega] at hsquare
  exact ⟨z, hsqrt.trans hz, hsquare⟩

end Binary64

end MarkupDesk.Number
