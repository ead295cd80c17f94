/-
`Proofs/Text/Search.lean` -- what the searches find.

`breakOn?` stops at the first occurrence: it fails exactly on the texts without one, and
a text whose beginning is no occurrence is searched from its next character on. For one
character this is all in one equivalence (`splitOnce?_eq_some_iff`).
-/
import Mathlib.Data.List.Infix
import MarkupDesk.Text.Basic

set_option autoImplicit false

namespace MarkupDesk.Text

/-! ## Cuts -/

/-- A place in a concatenation lies in its first part or in its second one. -/
theorem append_eq_cut {c : Char} {first second before behind : Text}
    (h : first ++ second = before ++ c :: behind) :
    (∃ rest, first = before ++ c :: rest ∧ behind = rest ++ second) ∨
      ∃ rest, before = first ++ rest ∧ second = rest ++ c :: behind := by
  rcases List.append_eq_append_iff.1 h with ⟨rest, hbefore, hsecond⟩ | ⟨rest, hfirst, hbehind⟩
  · exact .inr ⟨rest, hbefore, hsecond⟩
  · cases rest with
    | nil => exact .inr ⟨[], by rw [hfirst, List.append_nil, List.append_nil], hbehind.symm⟩
    | cons x rest =>
      obtain ⟨rfl, rfl⟩ := List.cons.inj hbehind
      exact .inl ⟨rest, hfirst, rfl⟩

/-! ## Beginnings -/

/-- A beginning without `c` ends before the first `c`. -/
theorem prefix_of_prefix_stop {w t rest : Text} {c : Char} (hc : c ∉ w)
    (h : w <+: t ++ c :: rest) : w <+: t := by
  rcases List.prefix_or_prefix_of_prefix h (List.prefix_append t (c :: rest)) with hw | ⟨more, rfl⟩
  · exact hw
  · rw [List.prefix_append_right_inj] at h
    cases more with
    | nil => simp
    | cons x more =>
      rw [(List.cons_prefix_cons.1 h).1] at hc
      exact absurd (by simp) hc

theorem isPrefixOf?_append (needle behind : Text) :
    needle.isPrefixOf? (needle ++ behind) = some behind := by
  induction needle with
  | nil => cases behind <;> rfl
  | cons n needle ih => rw [List.cons_append, isPrefixOf?_cons, if_pos (beq_self_eq_true n), ih]

/-- The needle is in front with something behind it exactly if the text is the two
together. -/
theorem isPrefixOf?_eq_some_iff {needle t behind : Text} :
    needle.isPrefixOf? t = some behind ↔ t = needle ++ behind := by
  constructor
  · exact eq_append_of_isPrefixOf?
  · rintro rfl
    exact isPrefixOf?_append needle behind

/-- The needle is not in front exactly if it is no prefix. -/
theorem isPrefixOf?_eq_none_iff {needle t : Text} :
    needle.isPrefixOf? t = none ↔ ¬ needle <+: t := by
  rw [Option.eq_none_iff_forall_ne_some]
  constructor
  · rintro h ⟨behind, rfl⟩
    exact h behind (isPrefixOf?_append needle behind)
  · intro h behind hb
    exact h ⟨behind, (isPrefixOf?_eq_some_iff.1 hb).symm⟩

/-! ## Occurrences -/

theorem breakOn?_append (needle behind : Text) :
    breakOn? needle (needle ++ behind) = some ([], behind) := by
  cases ht : needle ++ behind with
  | nil =>
    obtain ⟨rfl, rfl⟩ := List.append_eq_nil_iff.1 ht
    rfl
  | cons c t =>
    have hfound : needle.isPrefixOf? (c :: t) = some behind := isPrefixOf?_eq_some_iff.2 ht.symm
    rw [breakOn?, hfound]

/-- Where no occurrence begins, the search goes on at the next character. -/
theorem breakOn?_cons {needle t : Text} {c : Char} (h : ¬ needle <+: c :: t) :
    breakOn? needle (c :: t) = (breakOn? needle t).map fun parts => (c :: parts.1, parts.2) := by
  rw [breakOn?, isPrefixOf?_eq_none_iff.2 h]

/-- The search fails exactly on the texts in which the needle does not occur. -/
theorem breakOn?_eq_none_iff {needle t : Text} : breakOn? needle t = none ↔ ¬ needle <:+: t := by
  induction t with
  | nil => cases needle <;> simp [breakOn?]
  | cons c t ih =>
    by_cases h : needle <+: c :: t
    · obtain ⟨behind, hb⟩ := h
      have hin : needle <:+: needle ++ behind := ⟨[], behind, rfl⟩
      rw [← hb, breakOn?_append]
      simp [hin]
    · rw [breakOn?_cons h, Option.map_eq_none_iff, ih, List.infix_cons_iff]
      simp [h]

/-! ## One character -/

theorem splitOnce?_cons_self (c : Char) (t : Text) : splitOnce? c (c :: t) = some ([], t) :=
  breakOn?_append [c] t

theorem splitOnce?_cons {c x : Char} (h : x ≠ c) (t : Text) :
    splitOnce? c (x :: t) = (splitOnce? c t).map fun parts => (x :: parts.1, parts.2) := by
  refine breakOn?_cons fun hp => h ?_
  exact (List.cons_prefix_cons.1 hp).1.symm

/-- The cut is at the first `c`, and there is one wherever the text has a `c`. So a cut can be
given by its two parts, and need not be computed. -/
theorem splitOnce?_eq_some_iff {c : Char} {t before behind : Text} :
    splitOnce? c t = some (before, behind) ↔ c ∉ before ∧ t = before ++ c :: behind := by
  induction t generalizing before with
  | nil => simp [splitOnce?, breakOn?]
  | cons x t ih =>
    by_cases hx : x = c
    · subst hx
      rw [splitOnce?_cons_self]
      cases before with
      | nil => simp
      | cons b before =>
        simp only [Option.some.injEq, Prod.mk.injEq, List.cons_append, List.cons.injEq,
          List.mem_cons, not_or]
        constructor
        · rintro ⟨h, -⟩
          exact absurd h (List.cons_ne_nil b before).symm
        · rintro ⟨⟨h, -⟩, rfl, -⟩
          exact absurd rfl h
    -- another character goes to the first part, which is then not empty
    · rw [splitOnce?_cons hx, Option.map_eq_some_iff]
      constructor
      · rintro ⟨⟨b, r⟩, hbr, heq⟩
        obtain ⟨rfl, rfl⟩ : x :: b = before ∧ r = behind := by simpa using heq
        obtain ⟨hb, rfl⟩ := ih.1 hbr
        exact ⟨by simp [hb, Ne.symm hx], rfl⟩
      · rintro ⟨hb, heq⟩
        cases before with
        | nil => exact absurd (List.cons.inj heq).1 hx
        | cons b before =>
          obtain ⟨rfl, rfl⟩ := List.cons.inj heq
          exact ⟨(before, behind), ih.2 ⟨fun h => hb (List.mem_cons_of_mem _ h), rfl⟩, rfl⟩

theorem splitOnce?_eq_none_iff {c : Char} {t : Text} : splitOnce? c t = none ↔ c ∉ t := by
  rw [splitOnce?, breakOn?_eq_none_iff, List.singleton_infix_iff]

end MarkupDesk.Text
