/-
`Proofs/Toml/Strings.lean` -- a string that was written is read.

Each of the four forms has its own reader, and what a reader does at the next character is one
lemma (sections 2 to 4): an escape gives its character, a plain character itself. Between three
quotes each a run of quotes is taken at once, so there the statement is about a text with quotes in
front of it that were not read yet. The form of a string is chosen so that its reader never meets
anything else (`readString_stringText`).
-/
import MarkupDesk.Toml.Printer

set_option autoImplicit false

namespace MarkupDesk.Toml

variable {c quote : Char} {t u rest escape code : Text} {quotes count longest : Nat}

/-! ## 1. Characters -/

/-- A character that needs no escape is plain, but for the line feed. -/
theorem isPlainChar_of_not_needsEscape (h : needsEscape c = false) (hfeed : c ≠ '\n') :
    isPlainChar c = true := by
  simp only [needsEscape, Bool.or_eq_false_iff, Bool.and_eq_false_iff, decide_eq_false_iff_not,
    bne_eq_false_iff_eq, beq_eq_false_iff_ne] at h
  obtain ⟨(hlow | rfl) | hbreak, hdelete⟩ := h
  · simp only [isPlainChar, Bool.or_eq_true, Bool.and_eq_true, decide_eq_true_eq]
    exact .inr ⟨by omega, hdelete⟩
  · rfl
  · exact absurd hbreak hfeed

/-- A character that is not escaped is read as it is. -/
theorem isBasicChar_of_escapeOf? (h : escapeOf? c = none) (hquote : c ≠ '"') (hfeed : c ≠ '\n') :
    isBasicChar c = true := by
  have hback : c ≠ '\\' := by
    rintro rfl
    cases h
  have hplain : needsEscape c = false := by
    refine Bool.eq_false_iff.2 fun hneeds => ?_
    unfold escapeOf? at h
    repeat' split at h
    all_goals cases h
  rw [isBasicChar, isPlainChar_of_not_needsEscape hplain hfeed]
  simp [hquote, hback]

/-- Four hexadecimal digits are read as the number that they were written for. Capital letters
are digits as well as small ones; only small numbers are written in this way, so all of them
are tried. -/
theorem hexValue?_upper : ∀ n < 128,
    ((Text.hexPadded 4 n).map Char.toUpper).length = 4 ∧
      Text.hexValue? ((Text.hexPadded 4 n).map Char.toUpper) = some n ∧
      charOfNat? n = some (Char.ofNat n) := by
  decide +kernel

/-- A character that is written with four digits is read from them. -/
theorem readCodePoint_upper (h : c.toNat < 128) (rest : Text) :
    readCodePoint 4 ((Text.hexPadded 4 c.toNat).map Char.toUpper ++ rest) = .ok (c, rest) := by
  obtain ⟨hlength, hvalue, hchar⟩ := hexValue?_upper c.toNat h
  generalize (Text.hexPadded 4 c.toNat).map Char.toUpper = digits at hlength hvalue
  have htake : (digits ++ rest).take 4 = digits := by rw [← hlength, List.take_left]
  have hdrop : (digits ++ rest).drop 4 = rest := by rw [← hlength, List.drop_left]
  unfold readCodePoint
  simp only [htake, hdrop, hvalue, hlength, hchar, Char.ofNat_toNat]
  rfl

/-- **An escape is read** as the character that it was written for, and it is no escaped break. -/
theorem readEscape_of_escapeOf? (h : escapeOf? c = some escape) :
    ∃ code, escape = '\\' :: code ∧ ∀ rest, readEscape (code ++ rest) = .ok (c, rest) ∧
      skipEscapedBreak? (code ++ rest) = none := by
  unfold escapeOf? at h
  split at h
  next hc => exact ⟨['b'], (Option.some.inj h).symm, fun rest => ⟨by rw [hc]; rfl, rfl⟩⟩
  split at h
  next hc => exact ⟨['t'], (Option.some.inj h).symm, fun rest => ⟨by rw [hc]; rfl, rfl⟩⟩
  split at h
  next hc => exact ⟨['f'], (Option.some.inj h).symm, fun rest => ⟨by rw [hc]; rfl, rfl⟩⟩
  split at h
  next hc => exact ⟨['r'], (Option.some.inj h).symm, fun rest => ⟨by rw [hc]; rfl, rfl⟩⟩
  split at h
  next hc => exact ⟨['\\'], (Option.some.inj h).symm, fun rest => ⟨by rw [hc]; rfl, rfl⟩⟩
  split at h
  -- the other characters that need an escape are written with their number
  next hneeds =>
    have hsmall : c.toNat < 128 := by
      simp only [needsEscape, Bool.or_eq_true, Bool.and_eq_true, decide_eq_true_eq, beq_iff_eq] at hneeds
      omega
    refine ⟨'u' :: (Text.hexPadded 4 c.toNat).map Char.toUpper, (Option.some.inj h).symm, fun rest => ⟨?_, rfl⟩⟩
    have hread := readCodePoint_upper hsmall rest
    simp only [List.cons_append, readEscape, if_true, Reader.final, Reader.within, hread]
    rfl
  next => cases h

/-! ## 2. On one line -/

/-- With fuel for each of its characters, the text is read as the string with the rest behind it. -/
def ReadsAs (read : Nat → Reader Text) (u t rest : Text) : Prop :=
  ∀ fuel, u.length < fuel → read fuel u = .ok (t, rest)

/-- An escape gives its character. -/
theorem readBasic_escape (code : Text) (hread : readEscape (code ++ u) = .ok (c, u))
    (h : ReadsAs readBasicWithin u t rest) :
    ReadsAs readBasicWithin ('\\' :: (code ++ u)) (c :: t) rest := by
  intro fuel hfuel
  obtain ⟨fuel, rfl⟩ := Nat.exists_eq_succ_of_ne_zero (Nat.ne_zero_of_lt hfuel)
  have hrest : u.length < fuel := by
    simp only [List.length_cons, List.length_append] at hfuel
    omega
  simp [readBasicWithin, hread, h fuel hrest, bind, Except.bind]

/-- A plain character gives itself. -/
theorem readBasic_plain (hc : isBasicChar c = true) (h : ReadsAs readBasicWithin u t rest) :
    ReadsAs readBasicWithin (c :: u) (c :: t) rest := by
  intro fuel hfuel
  obtain ⟨fuel, rfl⟩ := Nat.exists_eq_succ_of_ne_zero (Nat.ne_zero_of_lt hfuel)
  have hquote : c ≠ '"' := by
    rintro rfl
    cases hc
  have hback : c ≠ '\\' := by
    rintro rfl
    cases hc
  simp [readBasicWithin, hquote, hback, hc, h fuel (Nat.lt_of_succ_lt_succ hfuel), bind, Except.bind]

/-- **Between double quotes on one line** every character is read that was written. The
induction is on the string; quotes, line feeds and escapes are read as their characters, all
else as it is. -/
theorem readBasicWithin_escapeText (t rest : Text) :
    ReadsAs readBasicWithin (escapeText false 0 quotes t ++ '"' :: rest) t rest := by
  induction t generalizing quotes with
  | nil =>
    intro fuel hfuel
    obtain ⟨fuel, rfl⟩ := Nat.exists_eq_succ_of_ne_zero (Nat.ne_zero_of_lt hfuel)
    simp [escapeText, readBasicWithin]
  | cons c t ih =>
    rw [escapeText]
    by_cases hquote : c = '"'
    · rw [if_pos hquote, if_neg (Nat.not_lt_zero quotes), hquote]
      exact readBasic_escape ['"'] rfl ih
    rw [if_neg hquote]
    by_cases hfeed : c = '\n'
    · rw [if_pos ⟨hfeed, rfl⟩, hfeed]
      exact readBasic_escape ['n'] rfl ih
    rw [if_neg fun hboth => hfeed hboth.1]
    cases hescape : escapeOf? c with
    -- no escape is needed, so the character is plain
    | none => exact readBasic_plain (isBasicChar_of_escapeOf? hescape hquote hfeed) ih
    | some escape =>
      obtain ⟨code, rfl, hcode⟩ := readEscape_of_escapeOf? hescape
      simp only [List.cons_append, List.append_assoc]
      exact readBasic_escape code (hcode _).1 ih

/-- **Between single quotes on one line** every character is read as it is. -/
theorem readLiteral_of_plain (h : ∀ c ∈ t, isLiteralChar c = true) (rest : Text) :
    readLiteral (t ++ '\'' :: rest) = .ok (t, rest) := by
  have hstop : ('\'' :: rest).takeWhile isLiteralChar = [] := rfl
  have hbehind : ('\'' :: rest).dropWhile isLiteralChar = '\'' :: rest := rfl
  rw [readLiteral, List.dropWhile_append_of_pos h, List.takeWhile_append_of_pos h, hstop, hbehind,
    List.append_nil]
  rfl

/-! ## 3. Quotes over several lines -/

/-- A run of quotes is taken as a whole. Fewer than three are part of the string, from three
on they end it, and up to two more belong to the string in front of its end. -/
theorem readQuotes_replicate (hu : u.head? ≠ some quote) (count : Nat) :
    readQuotes quote (List.replicate count quote ++ u) =
      if count < 3 then (List.replicate count quote, false, u)
      else (List.replicate (min (count - 3) 2) quote, true,
        (List.replicate count quote ++ u).drop (min (count - 3) 2 + 3)) := by
  have hrun : ((List.replicate count quote ++ u).takeWhile (· == quote)).length = count := by
    have hstop : u.takeWhile (· == quote) = [] := by
      cases u with
      | nil => rfl
      | cons x u =>
        have hx : x ≠ quote := fun heq => hu (by rw [heq, List.head?_cons])
        rw [List.takeWhile_cons, if_neg (by simpa using hx)]
    rw [List.takeWhile_append_of_pos (by simp), hstop, List.append_nil, List.length_replicate]
  have hdrop : (List.replicate count quote ++ u).drop count = u := by
    rw [List.drop_append, List.length_replicate, Nat.sub_self]
    simp
  unfold readQuotes
  simp only [hrun, hdrop]

/-- Quotes in front of the closing ones belong to the string. -/
theorem readQuotes_closing (hrest : rest.head? ≠ some quote) (hquotes : quotes < 3) :
    readQuotes quote (List.replicate quotes quote ++ ([quote, quote, quote] ++ rest)) =
      (List.replicate quotes quote, true, rest) := by
  have hrun : List.replicate quotes quote ++ ([quote, quote, quote] ++ rest) =
      List.replicate (quotes + 3) quote ++ rest := by
    rw [← List.replicate_append_replicate, List.append_assoc]
    rfl
  have hkept : min (quotes + 3 - 3) 2 = quotes := by omega
  rw [hrun, readQuotes_replicate hrest, if_neg (by omega), hkept, List.drop_append,
    List.length_replicate, Nat.sub_self]
  simp

theorem replicate_append_cons (count : Nat) (c : Char) (u : Text) :
    List.replicate count c ++ c :: u = List.replicate (count + 1) c ++ u := by
  rw [List.replicate_succ', List.append_assoc, List.singleton_append]

/-- Three quotes. -/
def closing (quote : Char) : Text := [quote, quote, quote]

/-- Fewer than three quotes in front of the end belong to the string. -/
theorem longBasic_closing (hquotes : quotes < 3) (hrest : rest.head? ≠ some '"') :
    ReadsAs readLongBasicWithin (List.replicate quotes '"' ++ (closing '"' ++ rest))
      (List.replicate quotes '"') rest := by
  intro fuel hfuel
  obtain ⟨fuel, rfl⟩ := Nat.exists_eq_succ_of_ne_zero (Nat.ne_zero_of_lt hfuel)
  have hread := readQuotes_closing hrest hquotes
  rw [← closing] at hread
  obtain ⟨behind, hbehind⟩ : ∃ behind, List.replicate quotes '"' ++ (closing '"' ++ rest) = '"' :: behind := by
    cases quotes <;> exact ⟨_, rfl⟩
  rw [hbehind] at hread ⊢
  simp [readLongBasicWithin, hread]

/-- Fewer than three quotes in front of anything else belong to the string. -/
theorem longBasic_run (hquotes : quotes < 3) (hu : u.head? ≠ some '"') (hne : u ≠ [])
    (h : ReadsAs readLongBasicWithin u t rest) :
    ReadsAs readLongBasicWithin (List.replicate quotes '"' ++ u) (List.replicate quotes '"' ++ t) rest := by
  cases quotes with
  | zero => exact h
  | succ more =>
    intro fuel hfuel
    obtain ⟨fuel, rfl⟩ := Nat.exists_eq_succ_of_ne_zero (Nat.ne_zero_of_lt hfuel)
    have hrun := readQuotes_replicate hu (more + 1)
    rw [if_pos hquotes] at hrun
    have hrest : u.length < fuel := by
      rw [List.length_append, List.length_replicate] at hfuel
      omega
    have hempty : u.isEmpty = false := by simpa using hne
    rw [List.replicate_succ, List.cons_append] at hrun ⊢
    simp [readLongBasicWithin, hrun, hempty, h fuel hrest, bind, Except.bind]

/-- An escape gives its character, and is no escaped break. -/
theorem longBasic_escape (code : Text) (hread : readEscape (code ++ u) = .ok (c, u))
    (hnoBreak : skipEscapedBreak? (code ++ u) = none) (h : ReadsAs readLongBasicWithin u t rest) :
    ReadsAs readLongBasicWithin ('\\' :: (code ++ u)) (c :: t) rest := by
  intro fuel hfuel
  obtain ⟨fuel, rfl⟩ := Nat.exists_eq_succ_of_ne_zero (Nat.ne_zero_of_lt hfuel)
  have hrest : u.length < fuel := by
    simp only [List.length_cons, List.length_append] at hfuel
    omega
  simp [readLongBasicWithin, hread, hnoBreak, h fuel hrest, bind, Except.bind]

theorem longBasic_plain (hc : isBasicChar c = true) (h : ReadsAs readLongBasicWithin u t rest) :
    ReadsAs readLongBasicWithin (c :: u) (c :: t) rest := by
  intro fuel hfuel
  obtain ⟨fuel, rfl⟩ := Nat.exists_eq_succ_of_ne_zero (Nat.ne_zero_of_lt hfuel)
  have hquote : c ≠ '"' := by
    rintro rfl
    cases hc
  have hback : c ≠ '\\' := by
    rintro rfl
    cases hc
  simp [readLongBasicWithin, hquote, hback, hc, h fuel (Nat.lt_of_succ_lt_succ hfuel), bind,
    Except.bind]

theorem longBasic_feed (h : ReadsAs readLongBasicWithin u t rest) :
    ReadsAs readLongBasicWithin ('\n' :: u) ('\n' :: t) rest := by
  intro fuel hfuel
  obtain ⟨fuel, rfl⟩ := Nat.exists_eq_succ_of_ne_zero (Nat.ne_zero_of_lt hfuel)
  have hplain : isBasicChar '\n' = false := by decide
  simp [readLongBasicWithin, newline?, hplain, h fuel (Nat.lt_of_succ_lt_succ hfuel), bind, Except.bind]

/-- **Between three double quotes each** every character is read that was written. The induction is
on the string; the quotes in front belong to the run that the reader is about to take. -/
theorem readLongBasicWithin_escapeText (hrest : rest.head? ≠ some '"') (hquotes : quotes < 3) :
    ReadsAs readLongBasicWithin
      (List.replicate quotes '"' ++ (escapeText true 2 quotes t ++ (closing '"' ++ rest)))
      (List.replicate quotes '"' ++ t) rest := by
  induction t generalizing quotes with
  | nil =>
    rw [escapeText, List.nil_append, List.append_nil]
    exact longBasic_closing hquotes hrest
  | cons c t ih =>
    have hnext := ih (Nat.zero_lt_succ 2)
    rw [List.replicate_zero, List.nil_append, List.nil_append] at hnext
    rw [escapeText]
    by_cases hquote : c = '"'
    · rw [if_pos hquote, hquote, replicate_append_cons]
      by_cases hfree : quotes < 2
      -- the quote makes the run longer, and the reader takes it with the run
      · rw [if_pos hfree, List.cons_append, replicate_append_cons]
        exact ih (Nat.succ_lt_succ hfree)
      · -- the third quote in a row is escaped
        rw [if_neg hfree, ← replicate_append_cons]
        exact longBasic_run hquotes (by simp) (by simp) (longBasic_escape ['"'] rfl rfl hnext)
    rw [if_neg hquote]
    by_cases hfeed : c = '\n'
    · rw [if_neg (by simp), hfeed]
      have hnone : escapeOf? '\n' = none := rfl
      rw [hnone]
      exact longBasic_run hquotes (by simp) (by simp) (longBasic_feed hnext)
    rw [if_neg fun hboth => hfeed hboth.1]
    cases hescape : escapeOf? c with
    | none =>
      exact longBasic_run hquotes (by simpa using hquote) (by simp)
        (longBasic_plain (isBasicChar_of_escapeOf? hescape hquote hfeed) hnext)
    | some escape =>
      obtain ⟨code, rfl, hcode⟩ := readEscape_of_escapeOf? hescape
      simp only [List.cons_append, List.append_assoc]
      exact longBasic_run hquotes (by simp) (by simp)
        (longBasic_escape code (hcode _).1 (hcode _).2 hnext)

/-- Fewer than three quotes in front of the end belong to the string. -/
theorem longLiteral_closing (hquotes : quotes < 3) (hrest : rest.head? ≠ some '\'') :
    ReadsAs readLongLiteralWithin (List.replicate quotes '\'' ++ (closing '\'' ++ rest))
      (List.replicate quotes '\'') rest := by
  intro fuel hfuel
  obtain ⟨fuel, rfl⟩ := Nat.exists_eq_succ_of_ne_zero (Nat.ne_zero_of_lt hfuel)
  have hread := readQuotes_closing hrest hquotes
  rw [← closing] at hread
  obtain ⟨behind, hbehind⟩ :
      ∃ behind, List.replicate quotes '\'' ++ (closing '\'' ++ rest) = '\'' :: behind := by
    cases quotes <;> exact ⟨_, rfl⟩
  rw [hbehind] at hread ⊢
  simp [readLongLiteralWithin, hread]

/-- Fewer than three quotes in front of a character of the string belong to it. -/
theorem longLiteral_run (hquotes : quotes < 3) (hu : u.head? ≠ some '\'')
    (hcontinues : continuesLiteral u = true) (h : ReadsAs readLongLiteralWithin u t rest) :
    ReadsAs readLongLiteralWithin (List.replicate quotes '\'' ++ u) (List.replicate quotes '\'' ++ t)
      rest := by
  cases quotes with
  | zero => exact h
  | succ more =>
    intro fuel hfuel
    obtain ⟨fuel, rfl⟩ := Nat.exists_eq_succ_of_ne_zero (Nat.ne_zero_of_lt hfuel)
    have hrun := readQuotes_replicate hu (more + 1)
    rw [if_pos hquotes] at hrun
    have hrest : u.length < fuel := by
      rw [List.length_append, List.length_replicate] at hfuel
      omega
    rw [List.replicate_succ, List.cons_append] at hrun ⊢
    simp [readLongLiteralWithin, hrun, hcontinues, h fuel hrest, bind, Except.bind]

theorem longLiteral_plain (hc : isLiteralChar c = true) (h : ReadsAs readLongLiteralWithin u t rest) :
    ReadsAs readLongLiteralWithin (c :: u) (c :: t) rest := by
  intro fuel hfuel
  obtain ⟨fuel, rfl⟩ := Nat.exists_eq_succ_of_ne_zero (Nat.ne_zero_of_lt hfuel)
  have hquote : c ≠ '\'' := by
    rintro rfl
    cases hc
  simp [readLongLiteralWithin, hquote, hc, h fuel (Nat.lt_of_succ_lt_succ hfuel), bind, Except.bind]

theorem longLiteral_feed (h : ReadsAs readLongLiteralWithin u t rest) :
    ReadsAs readLongLiteralWithin ('\n' :: u) ('\n' :: t) rest := by
  intro fuel hfuel
  obtain ⟨fuel, rfl⟩ := Nat.exists_eq_succ_of_ne_zero (Nat.ne_zero_of_lt hfuel)
  have hplain : isLiteralChar '\n' = false := by decide
  simp [readLongLiteralWithin, newline?, hplain, h fuel (Nat.lt_of_succ_lt_succ hfuel), bind,
    Except.bind]

/-! ## 4. Runs of quotes -/

/-- One step of measuring runs: the longest one so far, and the length of the one that goes on. -/
def runStep (quote : Char) (run : Nat × Nat) (c : Char) : Nat × Nat :=
  if c = quote then (max run.1 (run.2 + 1), run.2 + 1) else (run.1, 0)

theorem longestRun_eq (quote : Char) (t : Text) :
    longestRun quote t = (t.foldl (runStep quote) (0, 0)).1 := rfl

/-- The longest run only gets longer. -/
theorem le_foldl_runStep (quote : Char) (t : Text) (run : Nat × Nat) : run.1 ≤ (t.foldl (runStep quote) run).1 := by
  induction t generalizing run with
  | nil => exact Nat.le_refl _
  | cons c t ih =>
    refine Nat.le_trans ?_ (ih (runStep quote run c))
    rw [runStep]
    split
    · exact Nat.le_max_left _ _
    · exact Nat.le_refl _

/-- A text without a run of quotes has no quote. -/
theorem notMem_of_longestRun (h : longestRun quote t = 0) : quote ∉ t := by
  intro hmem
  obtain ⟨front, back, rfl⟩ := List.append_of_mem hmem
  -- the first quote makes a run of one at least
  rw [longestRun_eq, List.foldl_append, List.foldl_cons] at h
  have hrun := le_foldl_runStep quote back
    (runStep quote (front.foldl (runStep quote) (0, 0)) quote)
  rw [h, runStep, if_pos rfl] at hrun
  simp at hrun

/-- **Between three single quotes each** every character is read as it is, where no three single
quotes stand in a row. -/
theorem readLongLiteralWithin_of_runs (hrest : rest.head? ≠ some '\'') (hquotes : quotes < 3)
    (hruns : (t.foldl (runStep '\'') (longest, quotes)).1 < 3)
    (hplain : ∀ c ∈ t, needsEscape c = false) :
    ReadsAs readLongLiteralWithin (List.replicate quotes '\'' ++ (t ++ (closing '\'' ++ rest)))
      (List.replicate quotes '\'' ++ t) rest := by
  induction t generalizing quotes longest with
  | nil =>
    rw [List.nil_append, List.append_nil]
    exact longLiteral_closing hquotes hrest
  | cons c t ih =>
    have hlater : ∀ c ∈ t, needsEscape c = false := fun x hx => hplain x (List.mem_cons_of_mem _ hx)
    rw [List.foldl_cons, runStep] at hruns
    rw [List.cons_append]
    by_cases hquote : c = '\''
    · rw [if_pos hquote] at hruns
      rw [hquote, replicate_append_cons, replicate_append_cons]
      -- the run is among those that were measured
      have hmore := Nat.lt_of_le_of_lt (le_foldl_runStep _ t _) hruns
      exact ih (Nat.lt_of_le_of_lt (Nat.le_max_right _ _) hmore) hruns hlater
    · rw [if_neg hquote] at hruns
      have hnext := ih (Nat.zero_lt_succ 2) hruns hlater
      rw [List.replicate_zero, List.nil_append, List.nil_append] at hnext
      by_cases hfeed : c = '\n'
      · rw [hfeed]
        exact longLiteral_run hquotes (by simp) rfl (longLiteral_feed hnext)
      · have hliteral : isLiteralChar c = true := by
          rw [isLiteralChar, isPlainChar_of_not_needsEscape (hplain c List.mem_cons_self) hfeed]
          simp [hquote]
        refine longLiteral_run hquotes (by simpa using hquote) ?_ (longLiteral_plain hliteral hnext)
        simp [continuesLiteral, hliteral]

/-! ## 5. Forms -/

/-- A character that is no line feed and no carriage return begins no line break. -/
theorem newline?_cons (hfeed : c ≠ '\n') (hreturn : c ≠ '\r') (u : Text) : newline? (c :: u) = none := by
  unfold newline?
  split
  next heq => exact absurd (List.cons.inj heq).1 hfeed
  next heq => exact absurd (List.cons.inj heq).1 hreturn
  next => rfl

/-- One double quote, or two, begin a string on one line. -/
theorem readString_basic (h : ∀ v, u ≠ '"' :: '"' :: v) : readString ('"' :: u) = readBasic u := by
  unfold readString
  split
  next heq => exact absurd (List.cons.inj heq).2 (h _)
  next heq => rw [(List.cons.inj heq).2]
  next heq => cases (List.cons.inj heq).1
  next heq => cases (List.cons.inj heq).1
  next hnot _ _ => exact absurd rfl (hnot u)

/-- One single quote, or two, begin a literal string on one line. -/
theorem readString_literal (h : ∀ v, u ≠ '\'' :: '\'' :: v) : readString ('\'' :: u) = readLiteral u := by
  unfold readString
  split
  next heq => cases (List.cons.inj heq).1
  next heq => cases (List.cons.inj heq).1
  next heq => exact absurd (List.cons.inj heq).2 (h _)
  next heq => rw [(List.cons.inj heq).2]
  next hnot => exact absurd rfl (hnot u)

/-- What is written first between double quotes is none. -/
theorem head?_escapeText (overLines : Bool) (t : Text) :
    (escapeText overLines 0 quotes t).head? ≠ some '"' := by
  cases t with
  | nil => simp [escapeText]
  | cons c t =>
    rw [escapeText]
    by_cases hquote : c = '"'
    · rw [if_pos hquote, if_neg (Nat.not_lt_zero quotes)]
      simp
    rw [if_neg hquote]
    split
    · simp
    · cases hescape : escapeOf? c with
      | none => simpa using hquote
      | some escape =>
        obtain ⟨code, rfl, -⟩ := readEscape_of_escapeOf? hescape
        simp

/-- A text without line feeds begins with no line break, escaped or not. -/
theorem newline?_escapeText (h : '\n' ∉ t) (u : Text) :
    newline? (escapeText true 2 quotes t ++ (closing '"' ++ u)) = none := by
  cases t with
  | nil => exact newline?_cons (by decide) (by decide) _
  | cons c t =>
    have hfeed : c ≠ '\n' := fun heq => h (heq ▸ List.mem_cons_self)
    rw [escapeText]
    by_cases hquote : c = '"'
    · rw [if_pos hquote]
      split <;> exact newline?_cons (by decide) (by decide) _
    rw [if_neg hquote, if_neg (by simp [hfeed])]
    cases hescape : escapeOf? c with
    | none =>
      refine newline?_cons hfeed ?_ _
      rintro rfl
      cases hescape
    | some escape =>
      obtain ⟨code, rfl, -⟩ := readEscape_of_escapeOf? hescape
      exact newline?_cons (by decide) (by decide) _

theorem skipFirstBreak_feed (u : Text) : skipFirstBreak ('\n' :: u) = u := rfl

theorem skipFirstBreak_of_none (h : newline? u = none) : skipFirstBreak u = u := by
  rw [skipFirstBreak, h]
  rfl

/-- A string between double quotes on one line is read. -/
theorem readString_formBasic (t : Text) (hrest : rest.head? ≠ some '"') :
    readString (formatString .basic t ++ rest) = .ok (t, rest) := by
  have htext : formatString .basic t ++ rest = '"' :: (escapeText false 0 0 t ++ '"' :: rest) := by
    simp [formatString, StringForm.basic]
  rw [htext, readString_basic]
  · exact readBasicWithin_escapeText t rest _ (Nat.lt_succ_self _)
  · intro v heq
    cases hinner : escapeText false 0 0 t with
    | nil =>
      rw [hinner] at heq
      rw [(List.cons.inj heq).2] at hrest
      exact hrest rfl
    | cons c inner =>
      rw [hinner] at heq
      have hhead : (escapeText false 0 0 t).head? ≠ some '"' := head?_escapeText false t
      rw [hinner, (List.cons.inj heq).1] at hhead
      exact hhead rfl

/-- A string between single quotes on one line is read if no character of it needs more. -/
theorem readString_formLiteral (hplain : ∀ c ∈ t, isLiteralChar c = true)
    (hrest : rest.head? ≠ some '\'') : readString (formatString .literal t ++ rest) = .ok (t, rest) := by
  have htext : formatString .literal t ++ rest = '\'' :: (t ++ '\'' :: rest) := by
    simp [formatString, StringForm.literal]
  rw [htext, readString_literal]
  · exact readLiteral_of_plain hplain rest
  · intro v heq
    cases t with
    | nil =>
      rw [(List.cons.inj heq).2] at hrest
      exact hrest rfl
    | cons c t =>
      have hquote := hplain c List.mem_cons_self
      rw [(List.cons.inj heq).1] at hquote
      cases hquote

/-- The line break that a long string begins with is left out when it is read, and where there is
none nothing is. -/
theorem skipFirstBreak_lead (h : '\n' ∉ t → newline? u = none) :
    skipFirstBreak ((if t.contains '\n' then ['\n'] else []) ++ u) = u := by
  split
  · exact skipFirstBreak_feed u
  next hnone => exact skipFirstBreak_of_none (h (by simpa [Text.contains] using hnone))

/-- A string between three double quotes each is read. -/
theorem readString_formLongBasic (t : Text) (hrest : rest.head? ≠ some '"') :
    readString (formatString .longBasic t ++ rest) = .ok (t, rest) := by
  have htext : formatString .longBasic t ++ rest = '"' :: '"' :: '"' ::
      ((if t.contains '\n' then ['\n'] else []) ++ (escapeText true 2 0 t ++ (closing '"' ++ rest))) := by
    simp [formatString, StringForm.longBasic, closing]
  have hread := readLongBasicWithin_escapeText (t := t) hrest (Nat.zero_lt_succ 2)
  rw [List.replicate_zero, List.nil_append, List.nil_append] at hread
  rw [htext, readString, skipFirstBreak_lead fun hfeed => newline?_escapeText hfeed rest]
  refine hread _ ?_
  simp only [List.length_append]
  omega

/-- A string between three single quotes each is read if it has no three of them in a row. -/
theorem readString_formLongLiteral (hplain : ∀ c ∈ t, needsEscape c = false)
    (hruns : longestRun '\'' t < 3) (hrest : rest.head? ≠ some '\'') :
    readString (formatString .longLiteral t ++ rest) = .ok (t, rest) := by
  have htext : formatString .longLiteral t ++ rest = '\'' :: '\'' :: '\'' ::
      ((if t.contains '\n' then ['\n'] else []) ++ (t ++ (closing '\'' ++ rest))) := by
    simp [formatString, StringForm.longLiteral, closing]
  have hread := readLongLiteralWithin_of_runs hrest (Nat.zero_lt_succ 2) hruns hplain
  rw [List.replicate_zero, List.nil_append, List.nil_append] at hread
  -- a break in front would be skipped, so one is put there for it if the text has any
  have hbreak : '\n' ∉ t → newline? (t ++ (closing '\'' ++ rest)) = none := by
    intro hfeed
    cases t with
    | nil => exact newline?_cons (by decide) (by decide) _
    | cons c t =>
      refine newline?_cons (fun heq => hfeed (heq ▸ List.mem_cons_self)) ?_ _
      rintro rfl
      cases hplain '\r' List.mem_cons_self
  rw [htext, readString, skipFirstBreak_lead hbreak]
  refine hread _ ?_
  simp only [List.length_append]
  omega

/-- **A string that was written is read**, whatever characters it has. There is one case for
each form, and the conditions under which the form is chosen are those under which it is
read. -/
theorem readString_stringText (t : Text) (hdouble : rest.head? ≠ some '"')
    (hsingle : rest.head? ≠ some '\'') : readString (stringText t ++ rest) = .ok (t, rest) := by
  rw [stringText]
  unfold StringForm.ofText
  simp only
  split
  · exact readString_formBasic t hdouble
  split
  next hform =>
    simp only [Bool.and_eq_true, Bool.not_eq_true', beq_iff_eq] at hform
    -- no character needs an escape, and there is no line feed and no single quote
    obtain ⟨⟨hcontrol, hfeed⟩, hquotes⟩ := hform
    refine readString_formLiteral (fun c hc => ?_) hsingle
    have hneeds : needsEscape c = false := by
      simpa using List.any_eq_false.1 hcontrol c hc
    have hnotFeed : c ≠ '\n' := by
      rintro rfl
      simp [Text.contains, hc] at hfeed
    have hnotQuote : c ≠ '\'' := by
      rintro rfl
      exact notMem_of_longestRun hquotes hc
    rw [isLiteralChar, isPlainChar_of_not_needsEscape hneeds hnotFeed]
    simp [hnotQuote]
  split
  · exact readString_formLongBasic t hdouble
  split
  next hform =>
    simp only [Bool.and_eq_true, Bool.not_eq_true', decide_eq_true_eq] at hform
    refine readString_formLongLiteral (fun c hc => ?_) hform.2 hsingle
    simpa using List.any_eq_false.1 hform.1 c hc
  split
  · exact readString_formLongBasic t hdouble
  · exact readString_formBasic t hdouble

/-- A string begins with a quote. -/
theorem exists_stringText (t : Text) : ∃ c u, stringText t = c :: u ∧ (c = '"' ∨ c = '\'') := by
  have hdelimiter : ∀ form : StringForm, form = .basic ∨ form = .literal ∨ form = .longBasic ∨
      form = .longLiteral → ∃ c u, formatString form t = c :: u ∧ (c = '"' ∨ c = '\'') := by
    rintro form (rfl | rfl | rfl | rfl)
    · exact ⟨'"', _, rfl, .inl rfl⟩
    · exact ⟨'\'', _, rfl, .inr rfl⟩
    · exact ⟨'"', _, rfl, .inl rfl⟩
    · exact ⟨'\'', _, rfl, .inr rfl⟩
  refine hdelimiter _ ?_
  unfold StringForm.ofText
  simp only
  repeat' split
  all_goals simp

end MarkupDesk.Toml
