/-
`Proofs/Toml/Document.lean` -- a document of lines with one key and one scalar each is read.

A number could also be the beginning of a date, of a time or of a number with a fraction, so reading
one means that the readers of these give way (`readNumber_ofNat`). With strings and truth values that
makes the scalars (`Row`). A line with a bare key and a scalar is one statement (`readStatement_line`),
lines are their statements, and these give the table of the keys with their values, as long as no key
comes twice (`parse_document`).
-/
import MarkupDesk.Proofs.Dictionary
import MarkupDesk.Proofs.Toml.Strings
import MarkupDesk.Toml.Assembly
import Mathlib.Data.List.Forall2

set_option autoImplicit false

namespace MarkupDesk.Toml

variable {c mark : Char} {t u digits rest : Text} {count low high n depth : Nat} {α : Type}

/-! ## 1. Digits -/

theorem isDigit_of_mem_ofNat (h : c ∈ Text.ofNat n) : c.isDigit = true :=
  Nat.isDigit_of_mem_toDigits (by decide) (by decide) h

theorem digitsValue_ofNat (n : Nat) : Text.digitsValue (Text.ofNat n) = n :=
  Nat.ofDigitChars_toDigits (by decide) (by decide)

theorem digitChar_eq_zero : ∀ n < 10, n.digitChar = '0' → n = 0 := by decide

/-- No digits begin with a zero but those of zero. -/
theorem head?_ofNat (h : (Text.ofNat n).head? = some '0') : n = 0 := by
  induction n using Nat.strongRecOn with
  | ind n ih =>
    rw [Text.ofNat, Nat.toDigits_eq_if (by decide)] at h
    split at h
    next hsmall => exact digitChar_eq_zero n hsmall (Option.some.inj h)
    next hlarge =>
      have hne : Nat.toDigits 10 (n / 10) ≠ [] := List.ne_nil_of_length_pos Nat.length_toDigits_pos
      rw [List.head?_append, Option.or_of_isSome (List.isSome_head?.2 hne)] at h
      have hzero := ih (n / 10) (by omega) h
      omega

/-- What is behind digits is no mark. -/
theorem readMark_behind (hdigits : ∀ c ∈ digits, c.isDigit = true) (hcount : count ≤ digits.length)
    (hmark : mark.isDigit = false) (hfeed : mark ≠ '\n') (rest : Text) :
    readMark mark ((digits ++ '\n' :: rest).drop count) =
      .error (.before ((digits ++ '\n' :: rest).drop count)) := by
  rw [List.drop_append_of_le_length hcount]
  cases hbehind : digits.drop count with
  | nil =>
    have hne : '\n' ≠ mark := Ne.symm hfeed
    simp [readMark, hne]
  | cons c behind =>
    have hne : c ≠ mark := by
      rintro rfl
      rw [hdigits c (List.mem_of_mem_drop (hbehind ▸ List.mem_cons_self))] at hmark
      cases hmark
    simp [readMark, hne]

/-- A fault that leaves other forms to try. -/
def GivesWay (result : Except Fault α) : Prop := ∃ fault, result = .error fault ∧ fault.isFinal = false

/-- A field gives way, or it is as many digits as it should be. -/
theorem readField_cases (count low high : Nat) (u : Text) :
    GivesWay (readField count low high u) ∨
      ∃ value, readField count low high u = .ok (value, u.drop count) ∧
        (u.take count).length = count ∧ (u.take count).all Char.isDigit = true := by
  unfold readField
  simp only
  split
  next hdigits =>
    split
    · exact .inr ⟨_, rfl, hdigits⟩
    · exact .inl ⟨_, rfl, rfl⟩
  next => exact .inl ⟨_, rfl, rfl⟩

/-- **Digits before a line feed** are no field with a mark behind it. Either there are too few
digits for the field, or they are out of its range, or a digit or the line feed stands where
the mark should be; none of these faults is final. -/
theorem givesWay_of_mark (hdigits : ∀ c ∈ digits, c.isDigit = true) (hmark : mark.isDigit = false)
    (hfeed : mark ≠ '\n') (rest : Text) (more : Nat × Text → Unit × Text → Except Fault α) :
    GivesWay (do
      let field ← readField count low high (digits ++ '\n' :: rest)
      let behind ← readMark mark field.2
      more field behind) := by
  rcases readField_cases count low high (digits ++ '\n' :: rest) with
    ⟨fault, hfault, hway⟩ | ⟨value, hvalue, hlength, hall⟩
  · rw [hfault]
    exact ⟨fault, rfl, hway⟩
  · -- the line feed is not among the digits of the field
    have hcount : count ≤ digits.length := by
      refine Nat.not_lt.1 fun hshort => ?_
      have hmem : '\n' ∈ (digits ++ '\n' :: rest).take count := by
        rw [List.take_append, List.mem_append]
        refine .inr ?_
        obtain ⟨k, hk⟩ : ∃ k, count - digits.length = k + 1 := ⟨count - digits.length - 1, by omega⟩
        rw [hk, List.take_succ_cons]
        exact List.mem_cons_self
      have hdigit := List.all_eq_true.1 hall _ hmem
      cases hdigit
    rw [hvalue]
    refine ⟨.before ((digits ++ '\n' :: rest).drop count), ?_, rfl⟩
    have hbehind := readMark_behind hdigits hcount hmark hfeed rest
    simp only [bind, Except.bind, hbehind]

/-! ## 2. Numbers -/

/-- To say what was being read does not make a fault final. -/
theorem GivesWay.within {read : Reader α} (h : GivesWay (read t)) (subject : Subject) :
    GivesWay (read.within subject t) := by
  obtain ⟨fault, hfault, hway⟩ := h
  exact ⟨fault.within subject, by rw [Reader.within, hfault]; rfl, hway⟩

/-- What gives way does so whatever was to come behind it. -/
theorem GivesWay.bind {β : Type} {result : Except Fault α} (h : GivesWay result)
    (more : α → Except Fault β) : GivesWay (result >>= more) := by
  obtain ⟨fault, rfl, hway⟩ := h
  exact ⟨fault, rfl, hway⟩

theorem GivesWay.map {β : Type} {result : Except Fault α} (h : GivesWay result) (f : α → β) :
    GivesWay (result.map f) := by
  obtain ⟨fault, rfl, hway⟩ := h
  exact ⟨fault, rfl, hway⟩

/-- A reader that gives way leaves the text to the other one. -/
theorem GivesWay.orElse {read : Reader α} (h : GivesWay (read t)) (other : Reader α) :
    read.orElse other t = other t := by
  obtain ⟨fault, hfault, hway⟩ := h
  rw [Reader.orElse, hfault]
  simp only [hway]
  rfl

/-- Digits are no time of day. -/
theorem readTime_givesWay (hdigits : ∀ c ∈ digits, c.isDigit = true) (rest : Text) :
    GivesWay (readTime (digits ++ '\n' :: rest)) := by
  have hdate : GivesWay (readDate (digits ++ '\n' :: rest)) :=
    givesWay_of_mark hdigits (by decide) (by decide) rest _
  have hclock : GivesWay (readClock (digits ++ '\n' :: rest)) :=
    givesWay_of_mark hdigits (by decide) (by decide) rest _
  have hdateTime : GivesWay (readDateTime (digits ++ '\n' :: rest)) :=
    GivesWay.within (hdate.bind _) .dateTime
  refine GivesWay.map ?_ _
  rw [hdateTime.orElse]
  exact hclock.within .time

/-- Digits are read up to the line feed. -/
theorem readDigits_more (hc : c.isDigit = true) (hdigits : ∀ c ∈ digits, c.isDigit = true) (rest : Text) :
    readDigits.more Char.isDigit c (digits ++ '\n' :: rest) = .ok (c :: digits, '\n' :: rest) := by
  induction digits generalizing c with
  | nil => simp [readDigits.more]
  | cons d digits ih =>
    have hd := hdigits d List.mem_cons_self
    have hunderscore : d ≠ '_' := by
      rintro rfl
      cases hd
    have hrest := ih hd fun x hx => hdigits x (List.mem_cons_of_mem _ hx)
    rw [List.cons_append, readDigits.more]
    · simp [hd, hrest, bind, Except.bind]
    · intro heq
      exact absurd heq hunderscore
    · intro d' rest' heq
      exact absurd heq hunderscore

/-- The digits of a number, the first one by itself. -/
theorem exists_ofNat (n : Nat) : ∃ c digits, Text.ofNat n = c :: digits ∧ c.isDigit = true ∧
    (∀ d ∈ digits, d.isDigit = true) ∧ (c = '0' → n = 0 ∧ digits = []) := by
  have hne : Text.ofNat n ≠ [] := List.ne_nil_of_length_pos Nat.length_toDigits_pos
  obtain ⟨c, digits, h⟩ := List.exists_cons_of_ne_nil hne
  refine ⟨c, digits, h, isDigit_of_mem_ofNat (n := n) (h ▸ List.mem_cons_self),
    fun d hd => isDigit_of_mem_ofNat (n := n) (h ▸ List.mem_cons_of_mem _ hd), fun hc => ?_⟩
  have hzero : n = 0 := head?_ofNat (by rw [h, List.head?_cons, hc])
  refine ⟨hzero, ?_⟩
  rw [hzero] at h
  exact (List.cons.inj h).2.symm

/-- A digit is no sign. -/
theorem readSign_of_isDigit (hc : c.isDigit = true) (u : Text) : readSign (c :: u) = (false, c :: u) := by
  unfold readSign
  split
  next heq =>
    rw [(List.cons.inj heq).1] at hc
    cases hc
  next heq =>
    rw [(List.cons.inj heq).1] at hc
    cases hc
  next => rfl

/-- The digits of a number are read as they are written. No number but zero begins with a
zero, which the reader would not allow. -/
theorem readDecimal_ofNat (n : Nat) (rest : Text) :
    readDecimal (Text.ofNat n ++ '\n' :: rest) = .ok ((false, Text.ofNat n), '\n' :: rest) := by
  obtain ⟨c, digits, h, hc, hdigits, hzero⟩ := exists_ofNat n
  rw [h, List.cons_append]
  by_cases hfirst : c = '0'
  · obtain ⟨-, rfl⟩ := hzero hfirst
    rw [hfirst]
    rfl
  · have hmore := readDigits_more hc hdigits rest
    simp only [readDecimal, Reader.within, readSign_of_isDigit hc]
    split
    next heq => exact absurd (List.cons.inj heq).1 hfirst
    next => simp [readDigits, hc, hmore, Except.map, Except.mapError]

/-- A number without a fraction and an exponent is no float. -/
theorem readFloat_givesWay (n : Nat) (rest : Text) : GivesWay (readFloat (Text.ofNat n ++ '\n' :: rest)) := by
  have hfraction : GivesWay (readDecimalFraction (Text.ofNat n ++ '\n' :: rest)) := by
    rw [readDecimalFraction, readDecimal_ofNat]
    exact ⟨.before ('\n' :: rest), rfl, rfl⟩
  have hspecial : GivesWay (readSpecial (Text.ofNat n ++ '\n' :: rest)) := by
    obtain ⟨c, digits, h, hc, -, -⟩ := exists_ofNat n
    rw [h, List.cons_append, readSpecial, readSign_of_isDigit hc]
    simp only
    split
    next heq =>
      rw [(List.cons.inj heq).1] at hc
      cases hc
    next heq =>
      rw [(List.cons.inj heq).1] at hc
      cases hc
    next => exact ⟨_, rfl, rfl⟩
  refine GivesWay.map (GivesWay.within ?_ .float) _
  rw [hfraction.orElse]
  exact hspecial

theorem checkInteger_ofNat (h : n ≤ maxInteger) (t : Text) : checkInteger t (n : Int) = .ok (.integer n) := by
  have hlimit : Number.pow2 63 = 9223372036854775808 := rfl
  rw [maxInteger, hlimit] at h
  rw [checkInteger, hlimit, if_neg (by omega), if_neg (by omega)]

/-- A number within the limit is read from its digits. -/
theorem readInteger_ofNat (h : n ≤ maxInteger) (rest : Text) :
    readInteger (Text.ofNat n ++ '\n' :: rest) = .ok (.integer n, '\n' :: rest) := by
  have hdecimal := readDecimal_ofNat n rest
  obtain ⟨c, digits, hn, -, -, hzero⟩ := exists_ofNat n
  -- a zero in front of a letter would be that of another base
  have hbase : ∀ x u, x ≠ '\n' → Text.ofNat n ++ '\n' :: rest ≠ '0' :: x :: u := by
    intro x u hx heq
    rw [hn, List.cons_append] at heq
    obtain ⟨-, rfl⟩ := hzero (List.cons.inj heq).1
    exact hx (List.cons.inj (List.cons.inj heq).2).1.symm
  unfold readInteger
  split
  next heq => exact absurd heq (hbase _ _ (by decide))
  next heq => exact absurd heq (hbase _ _ (by decide))
  next heq => exact absurd heq (hbase _ _ (by decide))
  next =>
    simp only [hdecimal, bind, Except.bind, digitsValue_ofNat, Bool.false_eq_true, if_false,
      checkInteger_ofNat h]

/-- **A number that was written is read**: it is no date, no time and has no fraction. -/
theorem readNumber_ofNat (h : n ≤ maxInteger) (rest : Text) :
    readNumber (Text.ofNat n ++ '\n' :: rest) = .ok (.integer n, '\n' :: rest) := by
  have htime := readTime_givesWay (fun c hc => isDigit_of_mem_ofNat (n := n) hc) rest
  rw [readNumber, htime.orElse, (readFloat_givesWay n rest).orElse, readInteger_ofNat h]

/-! ## 3. Scalars -/

/-- The text begins with no blank, and is read as the value before a line feed. -/
structure Scalar (t : Text) (value : Toml) : Prop where
  start : ∃ c u, t = c :: u ∧ isBlankChar c = false
  reads : ∀ depth rest, readValue depth (t ++ '\n' :: rest) = .ok (value, '\n' :: rest)

/-- A string is a scalar, whatever characters it has. -/
theorem scalar_stringText (t : Text) : Scalar (stringText t) (.string t) := by
  obtain ⟨c, u, htext, hc⟩ := exists_stringText t
  refine ⟨⟨c, u, htext, by rcases hc with rfl | rfl <;> rfl⟩, fun depth rest => ?_⟩
  have hread : readString (stringText t ++ '\n' :: rest) = .ok (t, '\n' :: rest) :=
    readString_stringText t (by simp) (by simp)
  rw [htext, List.cons_append] at hread ⊢
  rw [readValue.eq_def]
  simp only
  rw [if_pos hc, hread]
  rfl

/-- A number is a scalar if it can be written. -/
theorem scalar_integerText? (h : integerText? n = some t) : Scalar t (.integer n) := by
  rw [integerText?] at h
  split at h
  next hsmall =>
    obtain rfl := Option.some.inj h
    obtain ⟨c, digits, hn, hc, -, -⟩ := exists_ofNat n
    have hne : ∀ d : Char, d.isDigit = false → c ≠ d := by
      rintro d hd rfl
      rw [hc] at hd
      cases hd
    refine ⟨⟨c, digits, hn, ?_⟩, fun depth rest => ?_⟩
    · simp [isBlankChar, hne ' ' rfl, hne '\t' rfl]
    · have hread := readNumber_ofNat hsmall rest
      rw [hn, List.cons_append] at hread ⊢
      have hquote : ¬ (c = '"' ∨ c = '\'') := by simp [hne '"' rfl, hne '\'' rfl]
      rw [readValue.eq_def]
      simp only
      rw [if_neg hquote, if_neg (hne '[' rfl), if_neg (hne '\x7b' rfl), if_pos (.inr (.inr hc)), hread]
  next => cases h

theorem scalar_booleanText (b : Bool) : Scalar (booleanText b) (.boolean b) := by
  cases b with
  | true =>
    refine ⟨⟨'t', ['r', 'u', 'e'], rfl, rfl⟩, fun depth rest => ?_⟩
    have htext : booleanText true ++ '\n' :: rest = 't' :: 'r' :: 'u' :: 'e' :: '\n' :: rest := rfl
    rw [htext, readValue.eq_def]
    rfl
  | false =>
    refine ⟨⟨'f', ['a', 'l', 's', 'e'], rfl, rfl⟩, fun depth rest => ?_⟩
    have htext : booleanText false ++ '\n' :: rest = 'f' :: 'a' :: 'l' :: 's' :: 'e' :: '\n' :: rest := rfl
    rw [htext, readValue.eq_def]
    rfl

/-! ## 4. Lines -/

/-- The key needs no quotes. -/
structure Bare (key : Text) : Prop where
  nonempty : key ≠ []
  chars : ∀ c ∈ key, isKeyChar c = true

theorem bare_iff (key : Text) : (!key.isEmpty && key.all isKeyChar) = true ↔ Bare key := by
  rw [Bool.and_eq_true, Bool.not_eq_true', List.isEmpty_eq_false_iff, List.all_eq_true]
  exact ⟨fun h => ⟨h.1, h.2⟩, fun h => ⟨h.1, h.2⟩⟩

instance (key : Text) : Decidable (Bare key) := decidable_of_iff _ (bare_iff key)

variable {key : Text}

theorem Bare.ne (h : Bare key) (hc : c ∈ key) {d : Char} (hd : isKeyChar d = false) : c ≠ d := by
  rintro rfl
  rw [h.chars c hc] at hd
  cases hd

theorem Bare.exists_cons (h : Bare key) : ∃ c behind, key = c :: behind ∧ isKeyChar c = true := by
  obtain ⟨c, behind, hkey⟩ := List.exists_cons_of_ne_nil h.nonempty
  exact ⟨c, behind, hkey, h.chars c (hkey ▸ List.mem_cons_self)⟩

theorem skipBlanks_cons (h : isBlankChar c = false) (u : Text) : skipBlanks (c :: u) = c :: u := by
  rw [skipBlanks, List.dropWhile_cons, if_neg (by simp [h])]

/-- No character of keys is blank. -/
theorem isBlankChar_of_isKeyChar (h : isKeyChar c = true) : isBlankChar c = false := by
  have hspace : c ≠ ' ' := by
    rintro rfl
    cases h
  have htab : c ≠ '\t' := by
    rintro rfl
    cases h
  simp [isBlankChar, hspace, htab]

/-- A bare key is read up to the blank behind it. -/
theorem readKeyName_bare (h : Bare key) (u : Text) :
    readKeyName (key ++ ' ' :: u) = .ok (key, ' ' :: u) := by
  obtain ⟨c, behind, rfl, -⟩ := h.exists_cons
  have hstop : (' ' :: u).takeWhile isKeyChar = [] := rfl
  have hbehind : (' ' :: u).dropWhile isKeyChar = ' ' :: u := rfl
  have hname : (c :: behind ++ ' ' :: u).takeWhile isKeyChar = c :: behind := by
    rw [List.takeWhile_append_of_pos h.chars, hstop, List.append_nil]
  have hrest : (c :: behind ++ ' ' :: u).dropWhile isKeyChar = ' ' :: u := by
    rw [List.dropWhile_append_of_pos h.chars, hbehind]
  rw [List.cons_append] at hname hrest ⊢
  rw [readKeyName, if_neg (h.ne List.mem_cons_self rfl), if_neg (h.ne List.mem_cons_self rfl), hname, hrest]
  rfl

/-- **A bare key is read** with the blank behind it. -/
theorem readKey_bare (h : Bare key) (u : Text) : ∃ span,
    readKey (key ++ ' ' :: '=' :: u) = .ok (⟨[], ⟨key, span⟩⟩, '=' :: u) := by
  have hname := readKeyName_bare h ('=' :: u)
  have hskip : skipBlanks (key ++ ' ' :: '=' :: u) = key ++ ' ' :: '=' :: u := by
    obtain ⟨c, behind, rfl, hc⟩ := h.exists_cons
    exact skipBlanks_cons (isBlankChar_of_isKeyChar hc) _
  have hblank : skipBlanks (' ' :: '=' :: u) = '=' :: u := rfl
  have hpart : readKeyPart (key ++ ' ' :: '=' :: u) =
      .ok (⟨key, .between (key ++ ' ' :: '=' :: u) (' ' :: '=' :: u)⟩, '=' :: u) := by
    simp only [readKeyPart, hskip, hname, hblank, bind, Except.bind]
  have hmore : ∀ fuel, Reader.separatedFrom '.' readKeyPart fuel ('=' :: u) = .ok ([], '=' :: u) := by
    intro fuel
    cases fuel <;> rfl
  refine ⟨.between (key ++ ' ' :: '=' :: u) (' ' :: '=' :: u), ?_⟩
  simp only [readKey, Reader.within, Reader.separated, hpart, hmore, bind, Except.bind, Except.mapError]
  rfl

/-- A line is read as its key and its value. Where they stand is noted as well, but the value
does not depend on it. -/
theorem readPair_line (hkey : Bare key) {value : Toml} (hscalar : Scalar t value) (depth : Nat)
    (rest : Text) : ∃ keySpan span,
      readPair (readValue depth) readLineEnd (line key t ++ rest) =
        .ok (⟨⟨[], ⟨key, keySpan⟩⟩, value, span⟩, rest) := by
  have htext : line key t ++ rest = key ++ ' ' :: '=' :: ' ' :: (t ++ '\n' :: rest) := by
    simp [line]
  obtain ⟨keySpan, hread⟩ := readKey_bare hkey (' ' :: (t ++ '\n' :: rest))
  -- the blank behind the sign is skipped, and none of the scalar
  have hblanks : skipBlanks (' ' :: (t ++ '\n' :: rest)) = t ++ '\n' :: rest := by
    obtain ⟨c, u, rfl, hc⟩ := hscalar.start
    rw [skipBlanks, List.dropWhile_cons, if_pos (by decide)]
    exact skipBlanks_cons hc _
  have hequals : readEquals.final ('=' :: ' ' :: (t ++ '\n' :: rest)) =
      .ok ((), ' ' :: (t ++ '\n' :: rest)) := rfl
  have hvalue : (readSpanned (readValue depth)).final (' ' :: (t ++ '\n' :: rest)) =
      .ok ((value, .between (t ++ '\n' :: rest) ('\n' :: rest)), '\n' :: rest) := by
    simp only [Reader.final, readSpanned, hblanks, hscalar.reads, bind, Except.bind, Except.mapError]
  have hend : readLineEnd.final ('\n' :: rest) = .ok ((), rest) := rfl
  refine ⟨keySpan, .between (t ++ '\n' :: rest) ('\n' :: rest), ?_⟩
  rw [htext]
  simp only [readPair, hread, hequals, hvalue, hend, bind, Except.bind]

/-- **A line is one statement.** It begins with a character of keys, and so it is not taken
for a table, a comment or an empty line. -/
theorem readStatement_line (hkey : Bare key) {value : Toml} (hscalar : Scalar t value) (rest : Text) :
    ∃ keySpan span, readStatement (line key t ++ rest) =
      .ok (some (.pair ⟨[], ⟨key, keySpan⟩⟩ value span), rest) := by
  obtain ⟨keySpan, span, hpair⟩ := readPair_line hkey hscalar (depthLimit - 1) rest
  refine ⟨keySpan, span, ?_⟩
  obtain ⟨c, behind, htext, hc⟩ : ∃ c behind, line key t ++ rest = c :: behind ∧ isKeyChar c = true := by
    obtain ⟨c, behind, rfl, hc⟩ := hkey.exists_cons
    exact ⟨c, _, rfl, hc⟩
  -- the first character is none that begins another kind of statement
  have hne : ∀ d : Char, isKeyChar d = false → c ≠ d := by
    rintro d hd rfl
    rw [hc] at hd
    cases hd
  rw [htext] at hpair ⊢
  have hfeed : newline? (c :: behind) = none := newline?_cons (hne '\n' rfl) (hne '\r' rfl) _
  unfold readStatement
  split
  next heq => exact absurd (List.cons.inj heq).1 (hne '[' rfl)
  next heq => exact absurd (List.cons.inj heq).1 (hne '[' rfl)
  next heq => exact absurd (List.cons.inj heq).1 (hne '[' rfl)
  next heq => exact absurd (List.cons.inj heq).1 (hne '#' rfl)
  next =>
    rw [hfeed]
    simp only [List.head?_cons, Option.some.injEq, if_neg (hne '\r' rfl), hpair]
    rfl

/-! ## 5. Documents -/

/-- A line: its key, the text behind it, and the value that this is read as. -/
structure Row where
  key : Text
  text : Text
  value : Toml
  bare : Bare key
  scalar : Scalar text value

/-- The lines one after the other. -/
def document (rows : List Row) : Text := rows.flatMap fun row => line row.key row.text

/-- The pair is that of the line. -/
def Row.Says (row : Row) (pair : Pair) : Prop :=
  ∃ keySpan span, pair = ⟨⟨[], ⟨row.key, keySpan⟩⟩, row.value, span⟩

/-- The statement that a pair is. -/
def Pair.statement (pair : Pair) : Statement := .pair pair.path pair.value pair.span

/-- **Lines are their statements**, one each. The induction is on the rows; the fuel is the
length of the document, and every line takes at least one character of it. -/
theorem readStatements_document (rows : List Row) {fuel : Nat} (h : (document rows).length < fuel) :
    ∃ pairs, List.Forall₂ Row.Says rows pairs ∧
      readStatements fuel (document rows) = (pairs.map Pair.statement, none) := by
  induction rows generalizing fuel with
  | nil =>
    obtain ⟨fuel, rfl⟩ := Nat.exists_eq_succ_of_ne_zero (Nat.ne_zero_of_lt h)
    exact ⟨[], .nil, rfl⟩
  | cons row rows ih =>
    obtain ⟨fuel, rfl⟩ := Nat.exists_eq_succ_of_ne_zero (Nat.ne_zero_of_lt h)
    have htext : document (row :: rows) = line row.key row.text ++ document rows := rfl
    obtain ⟨c, behind, hkey, hc⟩ := row.bare.exists_cons
    have hline : line row.key row.text = c :: (behind ++ " = ".toList ++ row.text ++ ['\n']) := by
      rw [line, hkey]
      rfl
    -- the line is not empty, so the fuel is enough for those behind it
    have hrest : (document rows).length < fuel := by
      rw [htext, hline, List.length_append, List.length_cons] at h
      omega
    obtain ⟨pairs, hpairs, hread⟩ := ih hrest
    obtain ⟨keySpan, span, hstatement⟩ := readStatement_line row.bare row.scalar (document rows)
    refine ⟨⟨⟨[], ⟨row.key, keySpan⟩⟩, row.value, span⟩ :: pairs, .cons ⟨keySpan, span, rfl⟩ hpairs, ?_⟩
    have hskip : skipBlanks (line row.key row.text ++ document rows) =
        line row.key row.text ++ document rows := by
      rw [hline, List.cons_append]
      exact skipBlanks_cons (isBlankChar_of_isKeyChar hc) _
    rw [htext, readStatements, hskip]
    rw [hline, List.cons_append] at hstatement ⊢
    simp only [hstatement, hread]
    rfl

/-- Pairs without tables between them are taken all at once. -/
theorem takePairs_statements (pairs : List Pair) : takePairs (pairs.map Pair.statement) = (pairs, []) := by
  induction pairs with
  | nil => rfl
  | cons pair pairs ih => rw [List.map_cons, Pair.statement, takePairs, ih]

theorem hasKey_eq_false {members : Members} (h : key ∉ Dictionary.keys members) :
    hasKey members key = false := by
  rw [hasKey, Dictionary.get?_eq_none_iff.2 h]
  rfl

/-- What a member says: its key and its value. -/
def saying (member : Text × Placed Toml) : Text × Toml := (member.1, member.2.value)

/-- Pairs with different keys are put in one after the other. The induction is on the pairs,
over the members that are there already. -/
theorem insertPairs_rows {rows : List Row} {pairs : List Pair} (h : List.Forall₂ Row.Says rows pairs)
    {members : Members} (hkeys : (Dictionary.keys members ++ rows.map Row.key).Nodup) :
    ∃ added, insertPairs [] pairs members = .ok (members ++ added) ∧
      added.map saying = rows.map fun row => (row.key, row.value) := by
  induction h generalizing members with
  | nil => exact ⟨[], by rw [List.append_nil]; rfl, rfl⟩
  | @cons row pair rows pairs hsays _ ih =>
    obtain ⟨keySpan, span, rfl⟩ := hsays
    -- the key is none of those that are there
    have hnew : row.key ∉ Dictionary.keys members := by
      intro hmem
      exact (List.nodup_append.1 hkeys).2.2 _ hmem _ List.mem_cons_self rfl
    have hinsert : insertAt row.value span ⟨row.key, keySpan⟩ (some []) [] [] members =
        .ok (members ++ [(row.key, ⟨keySpan, some span, row.value⟩)]) := by
      rw [insertAt, hasKey_eq_false hnew]
      rfl
    have hrest : (Dictionary.keys (members ++ [(row.key, (⟨keySpan, some span, row.value⟩ : Placed Toml))]) ++
        rows.map Row.key).Nodup := by
      rw [Dictionary.keys, List.map_append, List.append_assoc]
      exact hkeys
    obtain ⟨added, hadded, hsaying⟩ := ih hrest
    refine ⟨(row.key, ⟨keySpan, some span, row.value⟩) :: added, ?_, ?_⟩
    · rw [List.append_assoc] at hadded
      rw [insertPairs, List.foldlM_cons, hinsert]
      exact hadded
    · rw [List.map_cons, List.map_cons, hsaying, saying]

/-- A document does not begin with a byte order mark, since keys have none. -/
theorem dropByteOrderMark_document (rows : List Row) : dropByteOrderMark (document rows) = document rows := by
  cases rows with
  | nil => rfl
  | cons row rows =>
    obtain ⟨c, behind, hkey, hc⟩ := row.bare.exists_cons
    have htext : document (row :: rows) =
        c :: (behind ++ " = ".toList ++ row.text ++ ['\n'] ++ document rows) := by
      rw [document, List.flatMap_cons, line, hkey]
      rfl
    rw [htext]
    unfold dropByteOrderMark
    split
    next heq =>
      rw [(List.cons.inj heq).1] at hc
      cases hc
    next => rfl

/-- **A document of lines** is the table of their keys and values. -/
theorem parse_document {rows : List Row} (hkeys : (rows.map Row.key).Nodup) :
    ∃ members, parse (document rows) = .ok members ∧
      members.map saying = rows.map fun row => (row.key, row.value) := by
  obtain ⟨pairs, hpairs, hread⟩ := readStatements_document rows (Nat.lt_succ_self _)
  have hempty : (Dictionary.keys ([] : Members) ++ rows.map Row.key).Nodup := hkeys
  obtain ⟨members, hinsert, hsaying⟩ := insertPairs_rows hpairs hempty
  refine ⟨members, ?_, hsaying⟩
  rw [List.nil_append] at hinsert
  have hstatements : statements (document rows) = (pairs.map Pair.statement, none) := by
    rw [statements, dropByteOrderMark_document]
    exact hread
  have hassemble : assemble (pairs.map Pair.statement) = .ok members := by
    simp only [assemble, takePairs_statements, hinsert, bind, Except.bind]
    rfl
  simp only [parse, hstatements, hassemble, bind, Except.bind]

end MarkupDesk.Toml
