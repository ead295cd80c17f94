/-
`Proofs/Text/Replace.lean` -- what replacing does, place by place.

`replaceAll` jumps from one occurrence to the next. Read from left to right it replaces an
occurrence and goes on behind it (`replaceAll_here`), and copies a character that none begins with
(`replaceAll_next`); `occurrence_induction` is the induction that goes with it. How many there
are is counted without replacing anything (`occurrences`).

A text with slots that was filled with the needle may have more occurrences than slots, where
other characters happen to make one. Filling the slots with something else is the same as
replacing all occurrences just where there are no others (`replaceAll_spell_iff`). The needle must
not overlap with itself (`Unbordered`): then an occurrence is a slot, or none of it is one.
-/
import MarkupDesk.Proofs.Text.Search

set_option autoImplicit false

namespace MarkupDesk.Text

variable {needle w t behind : Text} {c : Char}

/-! ## 1. Overlaps -/

/-- No occurrence of the needle begins in `w`, whatever comes behind `w`. -/
def Apart (needle w : Text) : Prop :=
  ∀ v ∈ w.tails, v ≠ [] → ¬ v <+: needle ∧ ¬ needle <+: v

instance (needle w : Text) : Decidable (Apart needle w) :=
  inferInstanceAs (Decidable (∀ v ∈ w.tails, v ≠ [] → ¬ v <+: needle ∧ ¬ needle <+: v))

/-- What the needle does not overlap with keeps away from it further on, too. -/
theorem Apart.tail (h : Apart needle (c :: w)) : Apart needle w := by
  intro v hv
  exact h v (by simpa using .inr (by simpa using hv))

/-- The needle does not begin in a text that keeps apart from it, whatever stands behind. -/
theorem Apart.not_prefix (h : Apart needle (c :: w)) (behind : Text) :
    ¬ needle <+: c :: (w ++ behind) := by
  obtain ⟨hshort, hlong⟩ := h (c :: w) (by simp) (List.cons_ne_nil c w)
  intro hprefix
  rcases List.prefix_or_prefix_of_prefix hprefix (List.prefix_append (c :: w) behind) with hin | hin
  · exact hlong hin
  · exact hshort hin

/-- The needle is not empty and does not overlap with itself. -/
structure Unbordered (needle : Text) : Prop where
  filled : needle ≠ []
  apart : Apart needle needle.tail

/-! ## 2. Replacing -/

/-- Where the needle does not occur, nothing is replaced. -/
theorem replaceAll_of_none (h : breakOn? needle t = none) (value : Text) :
    replaceAll needle value t = t := by
  rw [replaceAll]
  split
  · rfl
  split
  · rfl
  next found => rw [h] at found; cases found

/-- The first occurrence is replaced, and the replacing goes on behind it. -/
theorem replaceAll_of_some (hne : needle ≠ []) {before : Text}
    (h : breakOn? needle t = some (before, behind)) (value : Text) :
    replaceAll needle value t = before ++ value ++ replaceAll needle value behind := by
  rw [replaceAll, dif_neg hne]
  split
  next found => rw [h] at found; cases found
  next found =>
    obtain ⟨rfl, rfl⟩ := Prod.mk.inj (Option.some.inj (h.symm.trans found))
    rfl

theorem replaceAll_nil (hne : needle ≠ []) (value : Text) : replaceAll needle value [] = [] :=
  replaceAll_of_none (breakOn?_eq_none_iff.2 fun h => hne (List.infix_nil.1 h)) value

/-- An occurrence is replaced. -/
theorem replaceAll_here (hne : needle ≠ []) (value behind : Text) :
    replaceAll needle value (needle ++ behind) = value ++ replaceAll needle value behind :=
  replaceAll_of_some hne (breakOn?_append needle behind) value

/-- A character that no occurrence begins with is copied. -/
theorem replaceAll_next (h : ¬ needle <+: c :: t) (value : Text) :
    replaceAll needle value (c :: t) = c :: replaceAll needle value t := by
  have hne : needle ≠ [] := by
    rintro rfl
    exact h List.nil_prefix
  cases hfound : breakOn? needle t with
  | none =>
    rw [replaceAll_of_none hfound, replaceAll_of_none]
    rw [breakOn?_cons h, hfound, Option.map_none]
  | some parts =>
    obtain ⟨before, behind⟩ := parts
    have hlater : breakOn? needle (c :: t) = some (c :: before, behind) := by
      rw [breakOn?_cons h, hfound, Option.map_some]
    rw [replaceAll_of_some hne hfound, replaceAll_of_some hne hlater]
    rfl

/-- Where no occurrence begins everything is copied. -/
theorem replaceAll_apart (h : Apart needle w) (value behind : Text) :
    replaceAll needle value (w ++ behind) = w ++ replaceAll needle value behind := by
  induction w with
  | nil => rfl
  | cons c w ih =>
    rw [List.cons_append, replaceAll_next (h.not_prefix behind), ih h.tail, List.cons_append]

/-- Replacing one character goes character by character. -/
theorem replaceAll_char (c : Char) (value t : Text) :
    replaceAll [c] value t = t.flatMap fun x => if x = c then value else [x] := by
  induction t with
  | nil => exact replaceAll_nil (List.cons_ne_nil c []) value
  | cons x t ih =>
    rw [List.flatMap_cons, ← ih]
    by_cases hx : x = c
    · rw [if_pos hx, hx]
      exact replaceAll_here (List.cons_ne_nil c []) value t
    · rw [if_neg hx]
      refine replaceAll_next (fun hprefix => hx ?_) value
      exact (List.cons_prefix_cons.1 hprefix).1.symm

/-- An induction that goes on behind each occurrence. -/
theorem occurrence_induction {motive : Text → Prop} (hne : needle ≠ []) (nil : motive [])
    (here : ∀ behind, motive behind → motive (needle ++ behind))
    (next : ∀ c t, ¬ needle <+: c :: t → motive t → motive (c :: t)) (t : Text) : motive t := by
  induction hlength : t.length using Nat.strong_induction_on generalizing t with
  | _ length ih =>
    cases t with
    | nil => exact nil
    | cons c t =>
      by_cases h : needle <+: c :: t
      · obtain ⟨behind, hbehind⟩ := h
        have hpos : 0 < needle.length := List.length_pos_iff.2 hne
        rw [← hbehind] at hlength ⊢
        rw [List.length_append] at hlength
        exact here behind (ih behind.length (by omega) behind rfl)
      · rw [List.length_cons] at hlength
        exact next c t h (ih t.length (by omega) t rfl)

/-! ## 3. Counting -/

/-- The number of places at which the needle occurs. -/
def occurrences (needle t : Text) : Nat := t.tails.countP fun rest => needle.isPrefixOf rest

theorem occurrences_nil (hne : needle ≠ []) : occurrences needle [] = 0 := by
  cases needle with
  | nil => exact absurd rfl hne
  | cons n needle => rfl

/-- Where the needle does not begin, the next character makes no difference to the count. -/
theorem occurrences_next (h : ¬ needle <+: c :: t) :
    occurrences needle (c :: t) = occurrences needle t := by
  rw [occurrences, List.tails_cons, List.countP_cons_of_neg]
  · rfl
  · simpa using h

/-- A text that keeps apart from the needle in front makes no difference to the count. -/
theorem occurrences_apart (h : Apart needle w) (behind : Text) :
    occurrences needle (w ++ behind) = occurrences needle behind := by
  induction w with
  | nil => rfl
  | cons c w ih => rw [List.cons_append, occurrences_next (h.not_prefix behind), ih h.tail]

/-- An occurrence counts once, since none begins within it. -/
theorem occurrences_here (h : Unbordered needle) (behind : Text) :
    occurrences needle (needle ++ behind) = occurrences needle behind + 1 := by
  cases needle with
  | nil => exact absurd rfl h.filled
  | cons n needle =>
    have hapart : Apart (n :: needle) needle := h.apart
    rw [occurrences, List.cons_append, List.tails_cons, List.countP_cons_of_pos]
    · show occurrences (n :: needle) (needle ++ behind) + 1 = _
      rw [occurrences_apart hapart]
    · simp

/-- Each occurrence makes the text longer or shorter by as much as its value is. -/
theorem length_replaceAll (h : Unbordered needle) (value t : Text) :
    (replaceAll needle value t).length + needle.length * occurrences needle t =
      t.length + value.length * occurrences needle t := by
  induction t using occurrence_induction h.filled with
  | nil => rw [replaceAll_nil h.filled, occurrences_nil h.filled, Nat.mul_zero, Nat.mul_zero]
  | here behind ih =>
    rw [replaceAll_here h.filled, occurrences_here h, List.length_append, List.length_append]
    rw [Nat.mul_succ, Nat.mul_succ]
    omega
  | next c t hnext ih =>
    rw [replaceAll_next hnext, occurrences_next hnext, List.length_cons, List.length_cons]
    omega

/-! ## 4. Slots -/

/-- A text with slots, where `none` is a slot, with the value in each of them. -/
def spell (value : Text) (marks : List (Option Char)) : Text :=
  marks.flatMap fun mark => mark.elim value fun c => [c]

theorem spell_append (value : Text) (marks marks' : List (Option Char)) :
    spell value (marks ++ marks') = spell value marks ++ spell value marks' :=
  List.flatMap_append

theorem spell_map_some (value w : Text) : spell value (w.map some) = w := by
  induction w with
  | nil => rfl
  | cons c w ih =>
    show c :: spell value (w.map some) = c :: w
    rw [ih]

/-- Each slot gives way to the value, so lengths differ by what the slots are filled with. It
is stated without subtraction. -/
theorem length_spell (value : Text) (marks : List (Option Char)) :
    (spell value marks).length + marks.count none =
      marks.length + value.length * marks.count none := by
  induction marks with
  | nil => rfl
  | cons mark marks ih =>
    cases mark with
    | none =>
      show (value ++ spell value marks).length + _ = _
      rw [List.count_cons_self, List.length_append, List.length_cons, Nat.mul_succ]
      omega
    | some c =>
      show (c :: spell value marks).length + _ = _
      rw [List.count_cons_of_ne (Option.some_ne_none c), List.length_cons, List.length_cons]
      omega

variable {marks : List (Option Char)}

/-- What no occurrence of the needle begins in is not made of slots with the needle in them. -/
theorem eq_map_of_prefix_spell (hapart : Apart needle w) (h : w <+: spell needle marks) :
    ∃ rest, marks = w.map some ++ rest := by
  induction w generalizing marks with
  | nil => exact ⟨marks, rfl⟩
  | cons c w ih =>
    cases marks with
    | nil => exact absurd (List.prefix_nil.1 h) (List.cons_ne_nil c w)
    | cons mark marks =>
      cases mark with
      | none =>
        obtain ⟨hshort, hlong⟩ := hapart (c :: w) (by simp) (List.cons_ne_nil c w)
        have hslot : needle <+: spell needle (none :: marks) := List.prefix_append _ _
        rcases List.prefix_or_prefix_of_prefix h hslot with hin | hin
        · exact absurd hin hshort
        · exact absurd hin hlong
      | some d =>
        obtain ⟨rfl, hw⟩ := List.cons_prefix_cons.1 h
        obtain ⟨rest, rfl⟩ := ih hapart.tail hw
        exact ⟨rest, rfl⟩

/-- An occurrence that begins outside of the slots has no slot in it. -/
theorem eq_map_of_occurrence (h : Unbordered needle)
    (hoccurs : needle <+: spell needle (some c :: marks)) :
    ∃ rest, some c :: marks = needle.map some ++ rest := by
  cases needle with
  | nil => exact absurd rfl h.filled
  | cons n needle =>
    have hapart : Apart (n :: needle) needle := h.apart
    obtain ⟨rfl, hneedle⟩ := List.cons_prefix_cons.1 hoccurs
    obtain ⟨rest, rfl⟩ := eq_map_of_prefix_spell hapart hneedle
    exact ⟨rest, rfl⟩

/-- An induction over a text with slots: a slot, an occurrence that is none, or a character that
no occurrence begins with. -/
theorem spell_induction {motive : List (Option Char) → Prop} (h : Unbordered needle)
    (nil : motive []) (slot : ∀ marks, motive marks → motive (none :: marks))
    (other : ∀ marks, motive marks → motive (needle.map some ++ marks))
    (next : ∀ c marks, ¬ needle <+: c :: spell needle marks → motive marks →
      motive (some c :: marks)) (marks : List (Option Char)) : motive marks := by
  induction hlength : marks.length using Nat.strong_induction_on generalizing marks with
  | _ length ih =>
    cases marks with
    | nil => exact nil
    | cons mark marks =>
      rw [List.length_cons] at hlength
      cases mark with
      | none => exact slot marks (ih marks.length (by omega) marks rfl)
      | some c =>
        by_cases hoccurs : needle <+: spell needle (some c :: marks)
        -- the needle is spelled by characters alone, and is passed over as a whole
        · obtain ⟨rest, hrest⟩ := eq_map_of_occurrence h hoccurs
          have hpos : 0 < needle.length := List.length_pos_iff.2 h.filled
          have hsame := congrArg List.length hrest
          rw [List.length_cons, List.length_append, List.length_map] at hsame
          rw [hrest]
          exact other rest (ih rest.length (by omega) rest rfl)
        · exact next c marks hoccurs (ih marks.length (by omega) marks rfl)

theorem count_none_map (w : Text) (marks : List (Option Char)) :
    (w.map some ++ marks).count none = marks.count none := by
  rw [List.count_append, List.count_eq_zero_of_not_mem (by simp), Nat.zero_add]

/-- Every slot is an occurrence. -/
theorem count_le_occurrences (h : Unbordered needle) (marks : List (Option Char)) :
    marks.count none ≤ occurrences needle (spell needle marks) := by
  induction marks using spell_induction h with
  | nil => exact Nat.zero_le _
  | slot marks ih =>
    show _ ≤ occurrences needle (needle ++ spell needle marks)
    rw [occurrences_here h, List.count_cons_self]
    omega
  | other marks ih =>
    rw [spell_append, spell_map_some, occurrences_here h, count_none_map]
    omega
  | next c marks hnext ih =>
    show _ ≤ occurrences needle (c :: spell needle marks)
    rw [occurrences_next hnext, List.count_cons_of_ne (Option.some_ne_none c)]
    exact ih

/-- **Filling and replacing.** The slots filled with a value are the occurrences replaced by it
where every occurrence is a slot, and nowhere else, unless the value is the needle. -/
theorem replaceAll_spell_iff (h : Unbordered needle) (value : Text) (marks : List (Option Char)) :
    replaceAll needle value (spell needle marks) = spell value marks ↔
      value = needle ∨ occurrences needle (spell needle marks) = marks.count none := by
  induction marks using spell_induction h with
  | nil =>
    have hnone : occurrences needle (spell needle []) = 0 := occurrences_nil h.filled
    have hsame : replaceAll needle value (spell needle []) = spell value [] :=
      replaceAll_nil h.filled value
    rw [hnone, hsame]
    simp
  | slot marks ih =>
    show replaceAll needle value (needle ++ spell needle marks) = value ++ spell value marks ↔
      value = needle ∨ occurrences needle (needle ++ spell needle marks) = _
    rw [replaceAll_here h.filled, occurrences_here h, List.count_cons_self,
      List.append_cancel_left_eq, ih]
    simp
  | other marks ih =>
    have hslots := count_le_occurrences h marks
    rw [spell_append, spell_append, spell_map_some, spell_map_some, replaceAll_here h.filled,
      occurrences_here h, count_none_map]
    constructor
    · intro hsame
      -- there are more occurrences than slots, so the value must be as long as the needle
      have hreplaced := length_replaceAll h value (spell needle marks)
      have hneedle := length_spell needle marks
      have hvalue := length_spell value marks
      obtain ⟨more, hmore⟩ := Nat.exists_eq_add_of_le hslots
      have hboth := congrArg List.length hsame
      rw [List.length_append, List.length_append] at hboth
      rw [hmore, Nat.mul_add, Nat.mul_add] at hreplaced
      have hlength : value.length * (more + 1) = needle.length * (more + 1) := by
        rw [Nat.mul_succ, Nat.mul_succ]
        omega
      have hsamelength := Nat.eq_of_mul_eq_mul_right (Nat.succ_pos more) hlength
      exact .inl (List.append_inj_left hsame hsamelength)
    · rintro (rfl | hcount)
      · rw [ih.2 (.inl rfl)]
      · omega
  | next c marks hnext ih =>
    show replaceAll needle value (c :: spell needle marks) = c :: spell value marks ↔
      value = needle ∨ occurrences needle (c :: spell needle marks) = _
    rw [replaceAll_next hnext, occurrences_next hnext,
      List.count_cons_of_ne (Option.some_ne_none c), List.cons.injEq, ih]
    simp

end MarkupDesk.Text
