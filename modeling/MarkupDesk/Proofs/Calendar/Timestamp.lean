/-
`Proofs/Calendar/Timestamp.lean` -- timestamps are read back from their texts.

A timestamp that was read from a text is `Proper`: its second is one of a day, its fraction
is below a second unless it stands in a leap second, and its year can be written down. Proper
timestamps are read back (`Proper.readsBack`), so what a file says about time survives being
written again, whatever form it was given in.
-/
import MarkupDesk.Proofs.Calendar.Date
import MarkupDesk.Proofs.Drafts.Document
import Mathlib.Data.List.Induction

set_option autoImplicit false

namespace MarkupDesk

/-! ## 1. Digits -/

namespace Text

/-- The value of the digits, as the standard library computes it. -/
theorem digitsValue_eq (digits : Text) : digitsValue digits = Nat.ofDigitChars 10 digits 0 := rfl

/-- One more digit at the end multiplies by ten; the inductions on digits go from the right
for this. -/
theorem digitsValue_append_singleton (digits : Text) (c : Char) :
    digitsValue (digits ++ [c]) = 10 * digitsValue digits + digitValue c := by
  rw [digitsValue, List.foldl_append]
  rfl

/-- Zeros in front do not count. -/
theorem digitsValue_replicate (count : Nat) (digits : Text) :
    digitsValue (List.replicate count '0' ++ digits) = digitsValue digits := by
  induction count with
  | zero => rfl
  | succ count ih =>
    rw [List.replicate_succ, List.cons_append, ← ih]
    rfl

/-- **A number is the value of its digits**, zeros in front of it or not. -/
theorem digitsValue_ofNatPadded (width n : Nat) : digitsValue (ofNatPadded width n) = n := by
  rw [ofNatPadded, digitsValue_replicate, digitsValue_eq, ofNat]
  exact Nat.ofDigitChars_toDigits (by decide) (by decide)

/-- Padding writes nothing but digits, so a reader of digits takes all of them. -/
theorem isDigit_of_mem_ofNatPadded {width n : Nat} {c : Char} (h : c ∈ ofNatPadded width n) :
    c.isDigit = true := by
  rcases List.mem_append.1 h with h | h
  · rw [List.eq_of_mem_replicate h]
    rfl
  · exact Nat.isDigit_of_mem_toDigits (by decide) (by decide) h

/-- A number that fits fills its field exactly. A reader of fields takes no more than so many
digits, and would otherwise leave the last ones behind. -/
theorem length_ofNatPadded {width n : Nat} (hwidth : 0 < width) (hn : n < 10 ^ width) :
    (ofNatPadded width n).length = width := by
  have hle : (ofNat n).length ≤ width := (Nat.length_toDigits_le_iff (by decide) hwidth).2 hn
  rw [ofNatPadded, List.length_append, List.length_replicate]
  omega

/-- The first digit, and those behind it. There is always one, so the readers, which refuse an
empty field and look at the first character for a sign or a blank, find a digit. -/
theorem exists_cons_ofNatPadded (width n : Nat) :
    ∃ c digits, ofNatPadded width n = c :: digits ∧ c.isDigit = true := by
  have hne : ofNatPadded width n ≠ [] := by
    have hpos : 0 < (ofNat n).length := Nat.length_toDigits_pos
    intro h
    have hlength := congrArg List.length h
    rw [ofNatPadded, List.length_append, List.length_nil] at hlength
    omega
  obtain ⟨c, digits, h⟩ := List.exists_cons_of_ne_nil hne
  exact ⟨c, digits, h, isDigit_of_mem_ofNatPadded (h ▸ List.mem_cons_self)⟩

theorem digitValue_le {c : Char} (h : c.isDigit = true) : digitValue c ≤ 9 := by
  have hbounds : 48 ≤ c.toNat ∧ c.toNat ≤ 57 := Char.isDigit_iff_toNat.1 h
  have hzero : '0'.toNat = 48 := rfl
  rw [digitValue, hzero]
  omega

/-- How many digits there are bounds what they say; for fractions this is the bound by a
second. -/
theorem digitsValue_lt {digits : Text} (h : ∀ c ∈ digits, c.isDigit = true) :
    digitsValue digits < 10 ^ digits.length := by
  induction digits using List.reverseRecOn with
  | nil => exact Nat.zero_lt_one
  | append_singleton front c ih =>
    have hfront := ih fun d hd => h d (List.mem_append_left _ hd)
    have hc := digitValue_le (h c (by simp))
    rw [digitsValue_append_singleton, List.length_append, List.length_singleton, Nat.pow_succ]
    omega

end Text

namespace Calendar.Timestamp

variable {rest : Text}

/-! ## 2. Reading what was written -/

/-- The text does not go on with a digit. -/
def NoDigit (t : Text) : Prop := ∀ c ∈ t.head?, c.isDigit = false

/-- A mark that is no digit ends a field, whatever follows it. -/
theorem noDigit_cons {c : Char} (h : c.isDigit = false) (rest : Text) : NoDigit (c :: rest) := by
  intro d hd
  rw [← Option.some.inj hd]
  exact h

/-- Where no digit follows, a reader of digits takes none. -/
theorem NoDigit.takeWhile_eq (h : NoDigit rest) : rest.takeWhile Char.isDigit = [] := by
  cases rest with
  | nil => rfl
  | cons c rest => rw [List.takeWhile_cons, h c rfl]; rfl

/-- Where no digit follows, a reader of digits leaves everything. -/
theorem NoDigit.dropWhile_eq (h : NoDigit rest) : rest.dropWhile Char.isDigit = rest := by
  cases rest with
  | nil => rfl
  | cons c rest => rw [List.dropWhile_cons, h c rfl]; rfl

/-- Digits are no blanks: the readers drop blanks first, and must not drop digits. -/
theorem isBlank_of_isDigit {c : Char} (h : c.isDigit = true) : Text.isBlank c = false := by
  have hbounds : 48 ≤ c.toNat ∧ c.toNat ≤ 57 := Char.isDigit_iff_toNat.1 h
  simp only [Text.isBlank, Bool.or_eq_false_iff, Bool.and_eq_false_iff, decide_eq_false_iff_not,
    beq_eq_false_iff_ne]
  omega

theorem trimStart_cons {c : Char} (h : Text.isBlank c = false) (t : Text) :
    Text.trimStart (c :: t) = c :: t := by
  rw [Text.trimStart, List.dropWhile_cons, h]
  rfl

/-- Blanks in front of a number are dropped, and a number has none. -/
theorem trimStart_ofNatPadded (width n : Nat) (rest : Text) :
    Text.trimStart (Text.ofNatPadded width n ++ rest) = Text.ofNatPadded width n ++ rest := by
  obtain ⟨c, digits, hdigits, hc⟩ := Text.exists_cons_ofNatPadded width n
  rw [hdigits, List.cons_append, trimStart_cons (isBlank_of_isDigit hc)]

/-- A padded number is read whole and no further, if the field is long enough and no digit
follows. -/
theorem readDigits_ofNatPadded {limit width n : Nat} (hrest : NoDigit rest)
    (hlimit : (Text.ofNatPadded width n).length ≤ limit) :
    readDigits limit (Text.ofNatPadded width n ++ rest) = some (Text.ofNatPadded width n, rest) := by
  have htake : (Text.ofNatPadded width n ++ rest).takeWhile Char.isDigit =
      Text.ofNatPadded width n := by
    rw [List.takeWhile_append_of_pos fun c hc => Text.isDigit_of_mem_ofNatPadded hc,
      hrest.takeWhile_eq, List.append_nil]
  have hne : ¬ (Text.ofNatPadded width n).isEmpty = true := by
    obtain ⟨c, digits, hdigits, -⟩ := Text.exists_cons_ofNatPadded width n
    simp [hdigits]
  rw [readDigits, htake, List.take_of_length_le hlimit, if_neg hne, List.drop_left]

/-- The fields of months, days, hours, minutes and seconds read back. They differ only in the
bound. -/
theorem readField_ofNatPadded {bound n : Nat} (hbound : n ≤ bound) (hn : n < 100)
    (hrest : NoDigit rest) :
    readField 2 bound (Text.ofNatPadded 2 n ++ rest) = some (n, rest) := by
  have hlength : (Text.ofNatPadded 2 n).length ≤ 2 :=
    Nat.le_of_eq (Text.length_ofNatPadded (by decide) hn)
  rw [readField, trimStart_ofNatPadded, readDigits_ofNatPadded hrest hlength, Option.bind_eq_bind,
    Option.bind_some]
  simp only [Text.digitsValue_ofNatPadded, if_pos hbound]

/-- A mark between two fields is read, and nothing else. -/
theorem readMark_cons {c : Char} (h : Text.isBlank c = false) (t : Text) :
    readMark c (c :: t) = some t := by
  rw [readMark, trimStart_cons h]
  exact if_pos rfl

/-- **Years read back**, in four digits or with a sign. -/
theorem readYear_yearText {year : Int} (hmin : -(minYear : Int) ≤ year)
    (hmax : year ≤ (maxYear : Int)) (hrest : NoDigit rest) :
    readYear (yearText year ++ rest) = some (year, rest) := by
  have hlength : ∀ n, (Text.ofNatPadded 4 n).length ≤ (Text.ofNatPadded 4 n ++ rest).length :=
    fun n => by rw [List.length_append]; exact Nat.le_add_right _ _
  unfold yearText
  by_cases hplain : 0 ≤ year ∧ year ≤ 9999
  · obtain ⟨c, digits, hdigits, hc⟩ := Text.exists_cons_ofNatPadded 4 year.toNat
    have hfour : (Text.ofNatPadded 4 year.toNat).length ≤ 4 :=
      Nat.le_of_eq (Text.length_ofNatPadded (by decide) (by omega))
    have hread : readDigits 4 (Text.ofNatPadded 4 year.toNat ++ rest) =
        some (Text.ofNatPadded 4 year.toNat, rest) := readDigits_ofNatPadded hrest hfour
    rw [if_pos hplain, readYear, trimStart_ofNatPadded]
    -- a digit is no sign
    rw [hdigits] at hread ⊢
    split
    next heq => cases heq; cases hc
    next heq => cases heq; cases hc
    next =>
      have hvalue : ((Text.digitsValue (c :: digits) : Nat) : Int) = year := by
        rw [← hdigits, Text.digitsValue_ofNatPadded]
        omega
      rw [hread, Option.bind_eq_bind, Option.bind_some]
      exact congrArg (fun y => some (y, rest)) hvalue
  · rw [if_neg hplain]
    -- beyond four digits the sign is always written
    by_cases hneg : year < 0
    · have hbound : year.natAbs ≤ minYear := by omega
      rw [if_pos hneg, List.cons_append, readYear, trimStart_cons (by decide)]
      simp only [readDigits_ofNatPadded hrest (hlength year.natAbs), Option.bind_eq_bind,
        Option.bind_some, Text.digitsValue_ofNatPadded, if_pos hbound]
      rw [Int.ofNat_natAbs_of_nonpos (by omega), Int.neg_neg]
    · have hbound : year.natAbs ≤ maxYear := by omega
      rw [if_neg hneg, List.cons_append, readYear, trimStart_cons (by decide)]
      simp only [readDigits_ofNatPadded hrest (hlength year.natAbs), Option.bind_eq_bind,
        Option.bind_some, Text.digitsValue_ofNatPadded, if_pos hbound]
      rw [Int.natAbs_of_nonneg (by omega)]

/-- **Fractions read back**, in any of the numbers of digits. -/
theorem readFraction_fractionText {nanos : Nat} (h : nanos < nanosPerSecond) :
    readFraction (fractionText nanos ++ ['Z']) = some (nanos, ['Z']) := by
  have hend : NoDigit ['Z'] := noDigit_cons (by decide) []
  have hlimit : nanos < 1000000000 := h
  -- with `width` digits the rest of the nine is a power of ten
  have hread : ∀ width n, 0 < width → width ≤ 9 → n < 10 ^ width →
      readFraction ('.' :: Text.ofNatPadded width n ++ ['Z']) =
        some (n * Number.pow10 (9 - width), ['Z']) := by
    intro width n hpos hwidth hn
    have hlength : (Text.ofNatPadded width n).length = width := Text.length_ofNatPadded hpos hn
    rw [List.cons_append, readFraction]
    simp only [readDigits_ofNatPadded hend (Nat.le_trans (Nat.le_of_eq hlength) hwidth),
      Option.bind_eq_bind, Option.bind_some, Text.digitsValue_ofNatPadded, hlength,
      hend.dropWhile_eq]
  -- the three lengths in which fractions are written
  have hpowers : Number.pow10 (9 - 3) = 1000000 ∧ Number.pow10 (9 - 6) = 1000 ∧
      Number.pow10 (9 - 9) = 1 := by decide
  obtain ⟨hthree, hsix, hnine⟩ := hpowers
  unfold fractionText
  by_cases hzero : nanos = 0
  · rw [if_pos hzero, hzero]
    rfl
  by_cases hmilli : nanos % 1000000 = 0
  · rw [if_neg hzero, if_pos hmilli, hread 3 _ (by decide) (by decide) (by omega), hthree,
      Nat.div_mul_cancel (Nat.dvd_of_mod_eq_zero hmilli)]
  by_cases hmicro : nanos % 1000 = 0
  · rw [if_neg hzero, if_neg hmilli, if_pos hmicro,
      hread 6 _ (by decide) (by decide) (by omega), hsix,
      Nat.div_mul_cancel (Nat.dvd_of_mod_eq_zero hmicro)]
  · rw [if_neg hzero, if_neg hmilli, if_neg hmicro,
      hread 9 _ (by decide) (by decide) (by omega), hnine, Nat.mul_one]

/-! ## 3. Proper timestamps -/

/-- The timestamp stands within its day, and within a second unless that is a leap second,
which ends a minute; and its year can be written down. -/
structure Proper (t : Timestamp) : Prop where
  second : t.second < secondsPerDay
  nanos : t.nanos < 2 * nanosPerSecond
  leap : nanosPerSecond ≤ t.nanos → t.second % 60 = 59
  year : t.inRange = true

instance (t : Timestamp) : Decidable t.Proper :=
  decidable_of_iff (t.second < secondsPerDay ∧ t.nanos < 2 * nanosPerSecond ∧
      (nanosPerSecond ≤ t.nanos → t.second % 60 = 59) ∧ t.inRange = true)
    ⟨fun ⟨second, nanos, leap, year⟩ => ⟨second, nanos, leap, year⟩,
      fun h => ⟨h.second, h.nanos, h.leap, h.year⟩⟩

variable {t : Timestamp}

/-- The date of a proper timestamp is read back. -/
theorem Proper.readDate_dateText (h : t.Proper) (hrest : NoDigit rest) :
    readDate (t.dateText ++ rest) = some (t.date, rest) := by
  have hvalid : t.date.isValid = true := Date.isValid_ofDay t.day
  have hparts := hvalid
  have hyear := h.year
  simp only [inRange, Bool.and_eq_true, decide_eq_true_eq] at hyear
  simp only [Date.isValid, Bool.and_eq_true, decide_eq_true_eq] at hparts
  obtain ⟨⟨⟨-, hmonth⟩, -⟩, hday⟩ := hparts
  -- no month is longer than its field allows
  have hlast : Date.daysInMonth t.date.year t.date.month ≤ 31 := by
    unfold Date.daysInMonth
    split
    · split <;> decide
    · split <;> decide
  have hdash : ∀ x : Text, NoDigit ('-' :: x) := noDigit_cons (by decide)
  have htext : t.dateText ++ rest = yearText t.date.year ++ '-' ::
      (Text.ofNatPadded 2 t.date.month ++ '-' :: (Text.ofNatPadded 2 t.date.day ++ rest)) := by
    simp [dateText]
  rw [htext, readDate]
  simp only [readYear_yearText hyear.1 hyear.2 (hdash _), Option.bind_eq_bind, Option.bind_some,
    readMark_cons (c := '-') (by decide),
    readField_ofNatPadded hmonth (by omega) (hdash _),
    readField_ofNatPadded (Nat.le_trans hday hlast) (by omega) hrest]
  exact if_pos hvalid

/-- A timestamp is its three numbers. Where one is put together from computed ones, each is
compared on its own. -/
theorem eq_of_parts {other : Timestamp} (hday : t.day = other.day)
    (hsecond : t.second = other.second) (hnanos : t.nanos = other.nanos) : t = other := by
  obtain ⟨day, second, nanos⟩ := t
  obtain rfl : day = other.day := hday
  obtain rfl : second = other.second := hsecond
  obtain rfl : nanos = other.nanos := hnanos
  rfl

/-- A proper timestamp is made of the parts that are written. In a leap second the seconds are
written as 60 and the fraction without its whole second, and both are put back. -/
theorem Proper.ofParts_eq (h : t.Proper) :
    ofParts t.date t.hour t.minute (t.second % 60 + t.nanos / nanosPerSecond)
      (t.nanos % nanosPerSecond) 0 = t := by
  have hsecond : t.second < 86400 := h.second
  have hnanos : t.nanos < 2000000000 := h.nanos
  have hleap : 1000000000 ≤ t.nanos → t.second % 60 = 59 := h.leap
  have hunit : nanosPerSecond = 1000000000 := rfl
  have hday : t.date.toDay = t.day := Date.toDay_ofDay t.day
  -- the seconds are 60 exactly in a leap second
  by_cases hlate : 1000000000 ≤ t.nanos
  · have hsixty : t.second % 60 + t.nanos / nanosPerSecond = 60 := by
      rw [hunit, hleap hlate]
      omega
    rw [ofParts, hsixty, hday]
    simp only [hour, minute, hunit, secondsPerDay, if_true]
    have hclock : (t.second / 3600 * 3600 + t.second / 60 % 60 * 60 + (60 - 1) : Nat) =
        t.second := by
      have hminute := hleap hlate
      omega
    rw [hclock]
    exact eq_of_parts (by dsimp only; omega) (by dsimp only; omega) (by dsimp only; omega)
  · have hplain : t.second % 60 + t.nanos / nanosPerSecond = t.second % 60 := by
      rw [hunit]
      omega
    have hless : ¬ t.second % 60 = 60 := by omega
    rw [ofParts, hplain, hday]
    simp only [hour, minute, hunit, secondsPerDay, if_neg hless]
    have hclock : (t.second / 3600 * 3600 + t.second / 60 % 60 * 60 + (t.second % 60 - 0) : Nat) =
        t.second := by omega
    rw [hclock]
    exact eq_of_parts (by dsimp only; omega) (by dsimp only; omega) (by dsimp only; omega)

/-- **Proper timestamps are read back.** The text is taken apart field by field; each lemma on
a field asks what follows the field, and that is the next mark, the fraction, or the end. -/
theorem Proper.readsBack (h : t.Proper) : t.ReadsBack := by
  have hsecond : t.second < 86400 := h.second
  have hnanos : t.nanos < 2000000000 := h.nanos
  have hleap : 1000000000 ≤ t.nanos → t.second % 60 = 59 := h.leap
  have hunit : nanosPerSecond = 1000000000 := rfl
  have hcolon : ∀ x : Text, NoDigit (':' :: x) := noDigit_cons (by decide)
  have hT : ∀ x : Text, NoDigit ('T' :: x) := noDigit_cons (by decide)
  -- what follows the seconds is a fraction or the end
  have hbehind : NoDigit (fractionText (t.nanos % nanosPerSecond) ++ ['Z']) := by
    unfold fractionText
    split
    · exact noDigit_cons (by decide) []
    · split
      · exact noDigit_cons (by decide) _
      · split <;> exact noDigit_cons (by decide) _
  have htext : t.toText = t.dateText ++ 'T' :: (Text.ofNatPadded 2 t.hour ++ ':' ::
      (Text.ofNatPadded 2 t.minute ++ ':' ::
        (Text.ofNatPadded 2 (t.second % 60 + t.nanos / nanosPerSecond) ++
          (fractionText (t.nanos % nanosPerSecond) ++ ['Z'])))) := by
    simp [toText, hourMinuteText]
  have hhour : t.hour ≤ 23 := by
    unfold hour
    omega
  have hminute : t.minute ≤ 59 := by
    unfold minute
    omega
  have hseconds : t.second % 60 + t.nanos / nanosPerSecond ≤ 60 := by
    rw [hunit]
    omega
  have hfraction : t.nanos % nanosPerSecond < nanosPerSecond := Nat.mod_lt _ (by decide)
  -- all timestamps are written in the same zone
  have hoffset : readOffset (Text.trimStart ['Z']) = some (0, []) := by decide
  rw [ReadsBack, htext, ofText?]
  simp only [h.readDate_dateText (hT _), Option.bind_eq_bind, Option.bind_some, true_or, if_true,
    readMark_cons (c := ':') (by decide),
    readField_ofNatPadded hhour (by omega) (hcolon _),
    readField_ofNatPadded hminute (by omega) (hcolon _),
    readField_ofNatPadded hseconds (by omega) hbehind,
    readFraction_fractionText hfraction, hoffset, h.ofParts_eq]
  exact if_pos ⟨rfl, h.year⟩

/-! ## 4. What is read is proper -/

/-- What was read as digits is digits, and no more than asked for. -/
theorem readDigits_some {limit : Nat} {text digits behind : Text}
    (h : readDigits limit text = some (digits, behind)) :
    digits.length ≤ limit ∧ ∀ c ∈ digits, c.isDigit = true := by
  unfold readDigits at h
  simp only at h
  split at h
  · cases h
  · obtain ⟨rfl, -⟩ := Prod.mk.inj (Option.some.inj h)
    refine ⟨by rw [List.length_take]; exact Nat.min_le_left _ _, fun c hc => ?_⟩
    -- only digits are taken, and of them a first part is kept
    exact List.all_takeWhile (l := text) (p := Char.isDigit) |> List.all_eq_true.1 |>
      fun hall => hall c (List.mem_of_mem_take hc)

/-- A fraction is below a second, in however many digits it was given: what is missing to nine
digits is multiplied in. -/
theorem readFraction_some {nanos : Nat} {text behind : Text}
    (h : readFraction text = some (nanos, behind)) : nanos < nanosPerSecond := by
  unfold readFraction at h
  split at h
  · rw [Option.bind_eq_bind, Option.bind_eq_some_iff] at h
    obtain ⟨⟨digits, between⟩, hdigits, h⟩ := h
    obtain ⟨rfl, -⟩ := Prod.mk.inj (Option.some.inj h)
    obtain ⟨hlength, hall⟩ := readDigits_some hdigits
    -- the digits are filled up with zeros to nine places
    calc Text.digitsValue digits * Number.pow10 (9 - digits.length)
        < 10 ^ digits.length * Number.pow10 (9 - digits.length) :=
          Nat.mul_lt_mul_of_pos_right (Text.digitsValue_lt hall) (Nat.pow_pos (by decide))
      _ = 10 ^ 9 := (Nat.pow_add 10 _ _).symm.trans (by rw [Nat.add_sub_cancel' hlength])
  · obtain ⟨rfl, -⟩ := Prod.mk.inj (Option.some.inj h)
    decide

/-- The digits of an offset are hours and minutes, so they make whole minutes. -/
theorem readOffsetDigits_some {seconds : Nat} {text behind : Text}
    (h : readOffsetDigits text = some (seconds, behind)) : seconds % 60 = 0 := by
  unfold readOffsetDigits at h
  split at h
  · split at h
    · simp only at h
      split at h
      · obtain ⟨rfl, -⟩ := Prod.mk.inj (Option.some.inj h)
        omega
      · cases h
    · cases h
  · cases h

/-- An offset is one of whole minutes, and so moves no second within its minute; a leap second
stays at the end of one. -/
theorem readOffset_some {offset : Int} {text behind : Text}
    (h : readOffset text = some (offset, behind)) : offset % 60 = 0 := by
  -- behind either sign stand the same digits
  have hsigned : ∀ (sign : Int → Int) {rest : Text}, (∀ n : Int, n % 60 = 0 → sign n % 60 = 0) →
      ((readOffsetDigits rest).bind fun read => some (sign (read.1 : Int), read.2)) =
        some (offset, behind) → offset % 60 = 0 := by
    intro sign rest hsign hread
    obtain ⟨⟨seconds, between⟩, hdigits, hread⟩ := Option.bind_eq_some_iff.1 hread
    obtain ⟨rfl, -⟩ := Prod.mk.inj (Option.some.inj hread)
    have hwhole := readOffsetDigits_some hdigits
    exact hsign _ (by omega)
  unfold readOffset at h
  split at h
  · obtain ⟨rfl, -⟩ := Prod.mk.inj (Option.some.inj h)
    rfl
  split at h
  · cases h
  split at h
  · obtain ⟨rfl, -⟩ := Prod.mk.inj (Option.some.inj h)
    rfl
  split at h
  · exact hsigned id (fun n hn => hn) h
  split at h
  · exact hsigned Int.neg (fun n hn => by change (-n) % 60 = 0; omega) h
  · cases h

/-- What is put together from parts that were read is proper. The fields are bounded where
they are read; here it is the offset that could move them out of their day, and the leap
second that could stand elsewhere. -/
theorem proper_ofParts {date : Date} {hour minute second nanos : Nat} {offset : Int}
    (hnanos : nanos < nanosPerSecond) (hoffset : offset % 60 = 0)
    (hyear : (ofParts date hour minute second nanos offset).inRange = true) :
    (ofParts date hour minute second nanos offset).Proper := by
  have hnanos : nanos < 1000000000 := hnanos
  refine ⟨?_, ?_, ?_, hyear⟩
  · simp only [ofParts, secondsPerDay]
    omega
  · simp only [ofParts, nanosPerSecond]
    split <;> omega
  · -- only a sixtieth second has that many nanoseconds
    simp only [ofParts, nanosPerSecond, secondsPerDay]
    by_cases hsixty : second = 60
    · simp only [if_pos hsixty]
      omega
    · simp only [if_neg hsixty]
      omega

/-- **A timestamp that was read is proper**, so it is read back when it is written again. Of
what was read, only the fraction, the offset and the check of the range at the end are needed
for that. -/
theorem proper_of_ofText? {text : Text} (h : ofText? text = some t) : t.Proper := by
  unfold ofText? at h
  simp only [Option.bind_eq_bind, Option.bind_eq_some_iff] at h
  obtain ⟨⟨date, behind⟩, -, h⟩ := h
  -- a mark stands between the date and the time
  split at h
  next =>
    split at h
    next =>
      simp only [Option.bind_some, Option.bind_eq_some_iff] at h
      obtain ⟨⟨hour, _⟩, -, _, -, ⟨minute, _⟩, -, _, -, ⟨second, _⟩, -, ⟨nanos, _⟩, hnanos,
        ⟨offset, _⟩, hoffset, h⟩ := h
      simp only at h
      split at h
      next hend =>
        obtain rfl := Option.some.inj h
        exact proper_ofParts (readFraction_some hnanos) (readOffset_some hoffset) hend.2
      next => cases h
    next => cases h
  next => cases h

end Calendar.Timestamp

end MarkupDesk
