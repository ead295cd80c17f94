/-
`Proofs/Editing/Suggestion.lean` -- exactly when marker keys are suggested, and which.

A marker is open at a `{` if nothing but characters of a key stands between it and the cursor
(`OpenAt`), which cuts the text before the cursor in two (`openAt_iff`). The scan backwards from
the cursor looks at one line only and takes the last `{` of it; it stops at just this place
(`typedKey?_brace`), because neither a line feed nor another `{` is a character of a key. So the
suggestions are those of the open marker (`suggestion_exact`).
-/
import MarkupDesk.Proofs.Editing.Completion

set_option autoImplicit false

namespace MarkupDesk.Editing

variable {t pre typed key : Text} {cursor place : Nat} {keys : List Text} {s : Suggestion}

/-! ## 1. Open markers -/

/-- An ASCII letter or digit, `_` or `-`. -/
def KeyChar (c : Char) : Prop :=
  ('A' ≤ c ∧ c ≤ 'Z') ∨ ('a' ≤ c ∧ c ≤ 'z') ∨ ('0' ≤ c ∧ c ≤ '9') ∨ c = '_' ∨ c = '-'

/-- At the place stands a `{`, and behind it nothing but characters of a key up to the cursor or
the end of the text. -/
structure OpenAt (t : Text) (cursor place : Nat) : Prop where
  before : place < cursor
  brace : t[place]? = some '{'
  between : ∀ i c, place < i → i < cursor → t[i]? = some c → KeyChar c

/-- What stands behind the place up to the cursor. -/
def typedBehind (t : Text) (cursor place : Nat) : Text := (t.take cursor).drop (place + 1)

/-- The key in lower case begins with the text in lower case. -/
def Completes (typed key : Text) : Prop := Text.lower typed <+: Text.lower key

instance (typed key : Text) : Decidable (Completes typed key) := inferInstanceAs (Decidable (_ <+: _))

/-- The test of the scan is what is said of characters of a key. -/
theorem isKeyChar_iff {c : Char} : isKeyChar c = true ↔ KeyChar c := by
  have hupper : c.isUpper = true ↔ 'A' ≤ c ∧ c ≤ 'Z' := decide_eq_true_iff
  have hlower : c.isLower = true ↔ 'a' ≤ c ∧ c ≤ 'z' :=
    (Bool.and_eq_true_iff).trans (and_congr decide_eq_true_iff decide_eq_true_iff)
  have hdigit : c.isDigit = true ↔ '0' ≤ c ∧ c ≤ '9' :=
    (Bool.and_eq_true_iff).trans (and_congr decide_eq_true_iff decide_eq_true_iff)
  have hchar : isKeyChar c = ((c.isUpper || c.isLower || c.isDigit) || c == '_' || c == '-') := rfl
  simp only [hchar, Bool.or_eq_true, beq_iff_eq, hupper, hlower, hdigit, KeyChar, or_assoc]

/-- A key fits if it completes what was typed, capital or not. -/
theorem fits_iff : fits typed key = true ↔ Completes typed key := by
  rw [fits, Text.startsWith, List.isPrefixOf_iff_prefix, Completes]

/-- What was typed is the part between the brace and the cursor. -/
theorem typedBehind_of_cut (h : t.take cursor = pre ++ '{' :: typed) :
    typedBehind t cursor pre.length = typed := by
  rw [typedBehind, h, List.drop_append, List.drop_eq_nil_of_le (Nat.le_succ _)]
  simp

/-- **An open marker** cuts the text before the cursor: up to the brace, and what was typed of
the key. The one form is about places, as the user sees them; the other is what the scan
finds. -/
theorem openAt_iff : OpenAt t cursor place ↔
    ∃ pre typed, t.take cursor = pre ++ '{' :: typed ∧ pre.length = place ∧ ∀ c ∈ typed, KeyChar c := by
  constructor
  · rintro ⟨hbefore, hbrace, hbetween⟩
    have hplace : (t.take cursor)[place]? = some '{' := by
      rw [List.getElem?_take_of_lt hbefore, hbrace]
    obtain ⟨hlength, hchar⟩ := List.getElem?_eq_some_iff.1 hplace
    refine ⟨(t.take cursor).take place, typedBehind t cursor place, ?_, ?_, fun c hc => ?_⟩
    · rw [← hchar, typedBehind, List.getElem_cons_drop, List.take_append_drop]
    · rw [List.length_take, Nat.min_eq_left (Nat.le_of_lt hlength)]
    · -- a character behind the brace has a place between the brace and the cursor
      obtain ⟨j, hj⟩ := List.mem_iff_getElem?.1 hc
      rw [typedBehind, List.getElem?_drop] at hj
      have hinside := (List.getElem?_eq_some_iff.1 hj).1
      have hcursor : place + 1 + j < cursor := by
        rw [List.length_take] at hinside
        omega
      rw [List.getElem?_take_of_lt hcursor] at hj
      exact hbetween _ c (by omega) hcursor hj
  · rintro ⟨pre, typed, hcut, rfl, htyped⟩
    have hlength := congrArg List.length hcut
    rw [List.length_take, List.length_append, List.length_cons] at hlength
    have hbefore : pre.length < cursor := by omega
    refine ⟨hbefore, ?_, fun i c hi hcursor hc => ?_⟩
    -- the brace is the first character behind the first part
    · rw [← List.getElem?_take_of_lt hbefore, hcut, List.getElem?_append_right (Nat.le_refl _),
        Nat.sub_self, List.getElem?_cons_zero]
    · rw [← List.getElem?_take_of_lt hcursor, hcut, List.getElem?_append_right (Nat.le_of_lt hi)] at hc
      obtain ⟨j, hj⟩ := Nat.exists_eq_add_of_lt hi
      have hindex : i - pre.length = j + 1 := by omega
      rw [hindex, List.getElem?_cons_succ] at hc
      exact htyped c (List.mem_of_getElem? hc)

/-! ## 2. The scan -/

/-- A character of a key is none that stops the scan. -/
theorem KeyChar.ne_of_not {c d : Char} (h : KeyChar c) (hd : isKeyChar d = false) : c ≠ d := by
  rintro rfl
  rw [isKeyChar_iff.2 h] at hd
  cases hd

/-- **The scan stops at the brace** of an open marker. -/
theorem typedKey?_brace (htyped : ∀ c ∈ typed, KeyChar c) :
    typedKey? (pre ++ '{' :: typed) = some typed := by
  have hkeep : ∀ d, isKeyChar d = false → ∀ c ∈ typed.reverse, decide (c ≠ d) = true := by
    intro d hd c hc
    exact decide_eq_true ((htyped c (List.mem_reverse.1 hc)).ne_of_not hd)
  -- neither of the scans stops in what was typed, and the second one stops at the brace
  have hline : (pre ++ '{' :: typed).reverse.takeWhile (· ≠ '\n') =
      typed.reverse ++ '{' :: pre.reverse.takeWhile (· ≠ '\n') := by
    rw [List.reverse_append, List.reverse_cons, List.append_assoc, List.singleton_append,
      List.takeWhile_append_of_pos (hkeep '\n' (by decide)), List.takeWhile_cons, if_pos (by decide)]
  have hstop : (typed.reverse ++ '{' :: pre.reverse.takeWhile (· ≠ '\n')).takeWhile (· ≠ '{') =
      typed.reverse := by
    rw [List.takeWhile_append_of_pos (hkeep '{' (by decide)), List.takeWhile_cons, if_neg (by decide),
      List.append_nil]
  unfold typedKey?
  simp only [hline, hstop, List.length_append, List.length_cons, List.reverse_reverse]
  rw [if_pos (by omega)]

/-! ## 3. What is suggested -/

/-- The keys to suggest for what was typed. -/
def firstFitting (keys : List Text) (typed : Text) : List Text :=
  (keys.filter fun key => Completes typed key).take 8

/-- The keys that are shown are the first fitting ones, in the order of the configuration. -/
theorem filter_fits (keys : List Text) (typed : Text) :
    (keys.filter (fits typed)).take maxSuggestions = firstFitting keys typed := by
  have hsame : keys.filter (fits typed) = keys.filter fun key => Completes typed key := by
    refine List.filter_congr fun key _ => ?_
    rw [Bool.eq_iff_iff, fits_iff, decide_eq_true_eq]
  rw [hsame, firstFitting, maxSuggestions]

/-- Some key is shown if some key fits; cutting the list off does not empty it. -/
theorem firstFitting_ne_nil_iff :
    firstFitting keys typed ≠ [] ↔ ∃ key ∈ keys, Completes typed key := by
  simp [firstFitting, List.take_eq_nil_iff, List.filter_eq_nil_iff]

/-- Where a marker is open, the keys that fit are suggested at it, if there are any. -/
theorem suggest?_of_cut (hcut : t.take cursor = pre ++ '{' :: typed) (htyped : ∀ c ∈ typed, KeyChar c)
    (hkeys : firstFitting keys typed ≠ []) :
    suggest? t cursor keys = some ⟨firstFitting keys typed, pre.length⟩ := by
  have hall : typed.all isKeyChar = true := List.all_eq_true.2 fun c hc => isKeyChar_iff.2 (htyped c hc)
  have hsome : (!(firstFitting keys typed).isEmpty) = true := by simpa using hkeys
  have hbrace : (pre ++ '{' :: typed).length - typed.length - 1 = pre.length := by
    rw [List.length_append, List.length_cons]
    omega
  unfold suggest?
  simp only [hcut, typedKey?_brace htyped, filter_fits]
  rw [if_pos ⟨hall, hsome⟩, hbrace]

/-- There are suggestions exactly for an open marker that some key completes, and they are the
first of these keys. -/
theorem suggest?_eq_some_iff : suggest? t cursor keys = some s ↔
    OpenAt t cursor s.brace ∧ (∃ key ∈ keys, Completes (typedBehind t cursor s.brace) key) ∧
      s.keys = firstFitting keys (typedBehind t cursor s.brace) := by
  constructor
  · intro h
    obtain ⟨pre, typed, hcut, hbrace, hall, hkeys, hne⟩ := suggest?_eq_some h
    rw [filter_fits] at hkeys
    have htyped : ∀ c ∈ typed, KeyChar c := fun c hc => isKeyChar_iff.1 (List.all_eq_true.1 hall c hc)
    have hbehind : typedBehind t cursor s.brace = typed := hbrace ▸ typedBehind_of_cut hcut
    -- some key fits exactly if the first eight that fit are not empty
    rw [hbehind, ← firstFitting_ne_nil_iff, ← hkeys]
    exact ⟨openAt_iff.2 ⟨pre, typed, hcut, hbrace, htyped⟩, hne, rfl⟩
  · rintro ⟨hopen, hkey, hkeys⟩
    obtain ⟨pre, typed, hcut, hbrace, htyped⟩ := openAt_iff.1 hopen
    have hbehind : typedBehind t cursor s.brace = typed := hbrace ▸ typedBehind_of_cut hcut
    rw [hbehind] at hkey hkeys
    rw [suggest?_of_cut hcut htyped (firstFitting_ne_nil_iff.2 hkey), ← hkeys, hbrace]

/-- **Marker keys are suggested** exactly where a marker is open and a key begins with what was
typed, upper and lower case taken as the same. Then the brace is that of the open marker, counted
in characters, and the keys are the first eight of those that fit, in their order. -/
theorem suggestion_exact (t : Text) (cursor : Nat) (keys : List Text) :
    ((suggest? t cursor keys).isSome = true ↔
      ∃ place, OpenAt t cursor place ∧ ∃ key ∈ keys, Completes (typedBehind t cursor place) key) ∧
    ∀ s, suggest? t cursor keys = some s ↔
      OpenAt t cursor s.brace ∧ (∃ key ∈ keys, Completes (typedBehind t cursor s.brace) key) ∧
        s.keys = firstFitting keys (typedBehind t cursor s.brace) := by
  refine ⟨?_, fun s => suggest?_eq_some_iff⟩
  rw [Option.isSome_iff_exists]
  constructor
  · rintro ⟨s, hs⟩
    obtain ⟨hopen, hkey, -⟩ := suggest?_eq_some_iff.1 hs
    exact ⟨s.brace, hopen, hkey⟩
  · rintro ⟨place, hopen, hkey⟩
    exact ⟨⟨firstFitting keys (typedBehind t cursor place), place⟩,
      suggest?_eq_some_iff.2 ⟨hopen, hkey, rfl⟩⟩

-- A place is a count of characters, also behind those of several bytes.
example : suggest? "é\n\x7bb:x\x7d \x7ba".toList 10 ["b".toList, "arabic".toList, "A1".toList] =
    some ⟨["arabic".toList, "A1".toList], 8⟩ := by decide +kernel

end MarkupDesk.Editing
