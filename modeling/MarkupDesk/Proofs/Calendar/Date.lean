/-
`Proofs/Calendar/Date.lean` -- days and dates go with each other.

Every day has a date that the calendar has (`isValid_ofDay`), and the date falls on that day
(`toDay_ofDay`). The arithmetic of `ofDay` is that of one cycle of 400 years. A day of a
cycle is taken apart first, into its century, its four years, its year and its day of the
year (`Place`); what `ofDay` computes from the day by division is read off these parts.
-/
import MarkupDesk.Calendar.Date
import Mathlib.Tactic.IntervalCases

set_option autoImplicit false

namespace MarkupDesk.Calendar.Date

/-! ## 1. The place of a day in a cycle -/

/-- The day `c` of a cycle is the day `u` of the year `t` of the four years `q` of the century
`g`. Only the last year of four has 366 days, and that of a century only if the cycle ends
with it. -/
structure Place (c g q t u : Int) : Prop where
  sum : c = 36524 * g + 1461 * q + 365 * t + u
  century : 0 ≤ g ∧ g ≤ 3
  quad : 0 ≤ q ∧ q ≤ 24
  year : 0 ≤ t ∧ t ≤ 3
  day : 0 ≤ u ∧ u ≤ 365
  leap : u = 365 → t = 3 ∧ (q ≤ 23 ∨ g = 3)

/-- Every day of a cycle has a place. The divisions are those by full centuries, full four
years and full years, each cut off at three, because the last day of a cycle, of four years
and of a century would otherwise open a fourth part that does not exist. -/
theorem exists_place {c : Int} (h0 : 0 ≤ c) (h1 : c < 146097) : ∃ g q t u, Place c g q t u := by
  -- a leap day is the day behind its century or year, and is counted with that
  refine ⟨min (c / 36524) 3, (c - 36524 * min (c / 36524) 3) / 1461,
    min ((c - 36524 * min (c / 36524) 3) % 1461 / 365) 3,
    (c - 36524 * min (c / 36524) 3) % 1461 -
      365 * min ((c - 36524 * min (c / 36524) 3) % 1461 / 365) 3, ?_⟩
  generalize hcentury : min (c / 36524) 3 = g
  have hrest : 0 ≤ c - 36524 * g ∧ c - 36524 * g ≤ 36524 ∧ (g < 3 → c - 36524 * g < 36524) := by
    omega
  have hbound : 0 ≤ g ∧ g ≤ 3 := by omega
  clear hcentury
  generalize hdays : c - 36524 * g = r at hrest ⊢
  generalize hyears : r % 1461 = s
  generalize hquad : r / 1461 = q
  have hsplit : r = 1461 * q + s ∧ 0 ≤ s ∧ s < 1461 := by omega
  clear hyears hquad
  constructor <;> omega

variable {c g q t u : Int}

/-- The divisions that `ofDay` makes give the year of the cycle. They count the leap days
before the day in one go, and are off by one day near the ends of four years; the place
of the day says by how much. -/
theorem yearOfCycle_eq (h : Place c g q t u) :
    (c - c / 1460 + c / 36524 - c / 146096) / 365 = 100 * g + 4 * q + t := by
  obtain ⟨hsum, hg, hq, ht, hu, hleap⟩ := h
  have hcentury : c / 36524 - c / 146096 = g := by
    have hcases : g = 0 ∨ g = 1 ∨ g = 2 ∨ g = 3 := by omega
    rcases hcases with rfl | rfl | rfl | rfl <;> omega
  -- dividing by 1460 counts the leap days, and is one day early near the end of four years
  have hquad : c / 1460 = 25 * g + q + (24 * g + q + 365 * t + u) / 1460 := by omega
  have hcarry : 0 ≤ (24 * g + q + 365 * t + u) / 1460 ∧ (24 * g + q + 365 * t + u) / 1460 ≤ 1 := by
    omega
  have hlate : 0 < (24 * g + q + 365 * t + u) / 1460 → 0 < u := by omega
  have hlast : u = 365 → 0 < (24 * g + q + 365 * t + u) / 1460 := by omega
  generalize (24 * g + q + 365 * t + u) / 1460 = carry at *
  omega

/-- What is left when the days of the full years are taken off is the day of the year. -/
theorem dayOfYear_eq (h : Place c g q t u) :
    c - (365 * (100 * g + 4 * q + t) + (100 * g + 4 * q + t) / 4 - (100 * g + 4 * q + t) / 100) =
      u := by
  obtain ⟨hsum, hg, hq, ht, hu, -⟩ := h
  have hfour : (100 * g + 4 * q + t) / 4 = 25 * g + q := by omega
  have hhundred : (100 * g + 4 * q + t) / 100 = g := by omega
  omega

/-- A year of 366 days is a leap year. It begins in March, so the leap day is in the next year. -/
theorem isLeapYear_of_place (h : Place c g q t u) (hu : u = 365) (era : Int) :
    isLeapYear (100 * g + 4 * q + t + era * 400 + 1) = true := by
  obtain ⟨-, hg, hq, -, -, hleap⟩ := h
  obtain ⟨rfl, hlast⟩ := hleap hu
  have hfour : (100 * g + 4 * q + 3 + era * 400 + 1) % 4 = 0 := by omega
  have hcentury : (100 * g + 4 * q + 3 + era * 400 + 1) % 100 ≠ 0 ∨
      (100 * g + 4 * q + 3 + era * 400 + 1) % 400 = 0 := by omega
  simpa [isLeapYear, hfour] using hcentury

/-! ## 2. The date of a day -/

/-- The date of a day, by the place of the day in its cycle; `k` counts the months behind March. -/
theorem ofDay_eq (day : Int) : ∃ era g q t u : Int, ∃ k : Nat,
    day = era * 146097 + (36524 * g + 1461 * q + 365 * t + u) - 719468 ∧
      Place (36524 * g + 1461 * q + 365 * t + u) g q t u ∧ (k : Int) = (5 * u + 2) / 153 ∧
        ofDay day =
          { year :=
              if (k + 2) % 12 + 1 ≤ 2 then 100 * g + 4 * q + t + era * 400 + 1
              else 100 * g + 4 * q + t + era * 400
            month := (k + 2) % 12 + 1
            day := (u - (153 * (k : Int) + 2) / 5 + 1).toNat } := by
  obtain ⟨g, q, t, u, h⟩ := exists_place (c := (day + 719468) % 146097) (by omega) (by omega)
  have hu := h.day
  obtain ⟨k, hk⟩ : ∃ k : Nat, (k : Int) = (5 * u + 2) / 153 := ⟨((5 * u + 2) / 153).toNat, by omega⟩
  have hmonth : ((k : Int) + 2) % 12 + 1 = ((k + 2) % 12 + 1 : Nat) := by omega
  have hbefore : ((k : Int) + 2) % 12 + 1 ≤ 2 ↔ (k + 2) % 12 + 1 ≤ 2 := by omega
  -- the eras are the full cycles, and `k` the months since March
  refine ⟨(day + 719468) / 146097, g, q, t, u, k, by have := h.sum; omega, h.sum ▸ h, hk, ?_⟩
  unfold ofDay
  simp only [epochOffset, daysPerCycle, yearOfCycle_eq h, dayOfYear_eq h, ← hk, hbefore]
  rw [hmonth, Int.toNat_natCast]

/-- **The date of a day falls on the day.** -/
theorem toDay_ofDay (day : Int) : (ofDay day).toDay = day := by
  obtain ⟨era, g, q, t, u, k, hday, hplace, hk, hdate⟩ := ofDay_eq day
  obtain ⟨-, hg, hq, ht, hu, -⟩ := hplace
  have hback : ((((k + 2) % 12 + 1 + 9) % 12 : Nat) : Int) = k := by omega
  have hfirst : 0 ≤ u - (153 * (k : Int) + 2) / 5 := by omega
  -- January and February belong to the year that began in the March before
  have hyear : (if (k + 2) % 12 + 1 ≤ 2
        then (if (k + 2) % 12 + 1 ≤ 2 then 100 * g + 4 * q + t + era * 400 + 1
          else 100 * g + 4 * q + t + era * 400) - 1
        else if (k + 2) % 12 + 1 ≤ 2 then 100 * g + 4 * q + t + era * 400 + 1
          else 100 * g + 4 * q + t + era * 400) = 100 * g + 4 * q + t + era * 400 := by
    split <;> omega
  rw [hdate, toDay]
  simp only [epochOffset, daysPerCycle, hback, hyear]
  omega

/-- The length of the month that is `k` months behind March; that of February is another matter. -/
theorem daysInMonth_of_march (year : Int) {k : Nat} (h : k ≤ 10) :
    (daysInMonth year ((k + 2) % 12 + 1) : Int) = (153 * (k + 1) + 2) / 5 - (153 * k + 2) / 5 := by
  interval_cases k <;> rfl

/-- **The date of a day is one that the calendar has.** -/
theorem isValid_ofDay (day : Int) : (ofDay day).isValid = true := by
  obtain ⟨era, g, q, t, u, k, -, hplace, hk, hdate⟩ := ofDay_eq day
  have hu := hplace.day
  rw [hdate, isValid]
  simp only [Bool.and_eq_true, decide_eq_true_eq]
  -- month and day are in bounds; how long the month is decides the last part
  refine ⟨⟨⟨by omega, by omega⟩, by omega⟩, ?_⟩
  rw [Int.toNat_le]
  by_cases hmonth : k ≤ 10
  · rw [daysInMonth_of_march _ hmonth]
    omega
  · -- February is the last month, and as long as the year leaves it
    obtain rfl : k = 11 := by omega
    have hafter : (11 + 2) % 12 + 1 ≤ 2 := by decide
    rw [if_pos hafter, daysInMonth, if_pos rfl]
    by_cases hleap : u = 365
    · rw [if_pos (isLeapYear_of_place hplace hleap era)]
      omega
    · split <;> omega

end MarkupDesk.Calendar.Date
