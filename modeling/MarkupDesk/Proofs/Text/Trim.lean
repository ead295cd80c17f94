/-
`Proofs/Text/Trim.lean` -- what is left when white space is cut off.

A trimmed text is a part of the text that it comes from, with nothing but white space
around it. White space added in front or behind is cut off again, so trimming sees through
whatever blanks two texts are put together with.
-/
import Mathlib.Data.List.Infix
import Mathlib.Data.List.TakeWhile
import MarkupDesk.Text.Blank

set_option autoImplicit false

namespace MarkupDesk.Text

/-! ## 1. What stays -/

theorem dropEndWhile_isPrefix (p : Char → Bool) (t : Text) : dropEndWhile p t <+: t := by
  rw [← List.reverse_suffix, dropEndWhile, List.reverse_reverse]
  exact List.dropWhile_suffix p

/-- The last character that is left is not one of those that go. -/
theorem getLast?_dropEndWhile {p : Char → Bool} {t : Text} {c : Char}
    (h : (dropEndWhile p t).getLast? = some c) : p c = false := by
  rw [dropEndWhile, List.getLast?_reverse] at h
  have hnot := List.head?_dropWhile_not p t.reverse
  rwa [h] at hnot

theorem dropEndWhile_eq_self {p : Char → Bool} {t : Text} (h : ∀ c ∈ t.getLast?, p c = false) :
    dropEndWhile p t = t := by
  rcases List.eq_nil_or_concat' t with rfl | ⟨front, c, rfl⟩
  · rfl
  · have hc : ¬ p c = true := by simp [h c (by simp)]
    rw [dropEndWhile, List.reverse_append, List.reverse_singleton, List.singleton_append,
      List.dropWhile_cons, if_neg hc, List.reverse_cons, List.reverse_reverse]

theorem dropEndWhile_cons_of_not {p : Char → Bool} {c : Char} (hc : p c = false) (t : Text) :
    dropEndWhile p (c :: t) = c :: dropEndWhile p t := by
  simp only [dropEndWhile, List.reverse_cons, List.dropWhile_append, List.isEmpty_iff]
  split
  next hnil => simp [hnil, hc]
  next => simp

theorem dropEndWhile_append_of_not {p : Char → Bool} {t : Text} (h : ∀ c ∈ t, p c = false)
    (rest : Text) : dropEndWhile p (t ++ rest) = t ++ dropEndWhile p rest := by
  induction t with
  | nil => rfl
  | cons c t ih =>
    rw [List.cons_append, dropEndWhile_cons_of_not (h c List.mem_cons_self),
      ih fun x hx => h x (List.mem_cons_of_mem c hx), List.cons_append]

theorem trim_isInfix (t : Text) : trim t <:+: t :=
  (dropEndWhile_isPrefix isBlank _).isInfix.trans (List.dropWhile_suffix isBlank).isInfix

theorem mem_of_mem_trim {c : Char} {t : Text} (h : c ∈ trim t) : c ∈ t :=
  (trim_isInfix t).subset h

/-! ## 2. What goes -/

/-- The text is white space only. -/
def AllBlank (t : Text) : Prop := ∀ c ∈ t, isBlank c = true

instance (t : Text) : Decidable (AllBlank t) := List.decidableBAll (isBlank · = true) t

namespace AllBlank

variable {t t' : Text} {c : Char}

theorem nil : AllBlank [] := by simp [AllBlank]

theorem cons (hc : isBlank c = true) (h : AllBlank t) : AllBlank (c :: t) := by
  intro x hx
  rcases List.mem_cons.1 hx with rfl | hx
  · exact hc
  · exact h x hx

theorem head (h : AllBlank (c :: t)) : isBlank c = true := h c List.mem_cons_self

theorem tail (h : AllBlank (c :: t)) : AllBlank t := fun x hx => h x (List.mem_cons_of_mem c hx)

theorem append (h : AllBlank t) (h' : AllBlank t') : AllBlank (t ++ t') := by
  intro x hx
  rcases List.mem_append.1 hx with hx | hx
  · exact h x hx
  · exact h' x hx

end AllBlank

variable {w : Text}

theorem trimStart_append (h : AllBlank w) (t : Text) : trimStart (w ++ t) = trimStart t := by
  rw [trimStart, List.dropWhile_append_of_pos h]
  rfl

theorem trimStart_of_allBlank (h : AllBlank w) : trimStart w = [] :=
  List.dropWhile_eq_nil_iff.2 h

theorem trimEnd_append (h : AllBlank w) (t : Text) : trimEnd (t ++ w) = trimEnd t := by
  have hrev : ∀ c ∈ w.reverse, isBlank c = true := fun c hc => h c (List.mem_reverse.1 hc)
  rw [trimEnd, dropEndWhile, List.reverse_append, List.dropWhile_append_of_pos hrev]
  rfl

theorem trimEnd_of_allBlank (h : AllBlank w) : trimEnd w = [] := trimEnd_append h []

/-- Cutting off the end of a longer text cuts off the end of its rest first. -/
theorem trimEnd_cons (c : Char) (t : Text) :
    trimEnd (c :: t) = if trimEnd t = [] ∧ isBlank c = true then [] else c :: trimEnd t := by
  simp only [trimEnd, dropEndWhile, List.reverse_cons, List.dropWhile_append, List.isEmpty_iff,
    List.reverse_eq_nil_iff]
  by_cases hrest : List.dropWhile isBlank t.reverse = []
  · by_cases hc : isBlank c = true <;> simp [hrest, hc]
  · simp [hrest]

/-- White space in front of a text is cut off with the white space it begins with. -/
theorem trim_append_left (h : AllBlank w) (t : Text) : trim (w ++ t) = trim t := by
  rw [trim, trimStart_append h, trim]

/-- A text that does not begin with white space loses it at its end only. -/
theorem trim_cons_of_not_isBlank {c : Char} (hc : ¬ isBlank c = true) (t : Text) :
    trim (c :: t) = c :: trimEnd t := by
  rw [trim, trimStart, List.dropWhile_cons_of_neg hc, trimEnd_cons, if_neg fun h => hc h.2]

/-- The two ends can be cut off in either order. -/
theorem trim_eq_trimStart_trimEnd (t : Text) : trim t = trimStart (trimEnd t) := by
  induction t with
  | nil => rfl
  | cons c t ih =>
    by_cases hc : isBlank c = true
    · have hleft : trim (c :: t) = trim t := trim_append_left (w := [c]) (.cons hc .nil) t
      have hright : trimStart (trimEnd (c :: t)) = trimStart (trimEnd t) := by
        rw [trimEnd_cons]
        split
        next hempty => rw [hempty.1]
        next => rw [trimStart, List.dropWhile_cons_of_pos hc, trimStart]
      rw [hleft, ih, hright]
    · rw [trim_cons_of_not_isBlank hc, trimEnd_cons, if_neg fun h => hc h.2, trimStart,
        List.dropWhile_cons_of_neg hc]

/-- White space behind a text is cut off with the white space it ends with. -/
theorem trim_append_right (h : AllBlank w) (t : Text) : trim (t ++ w) = trim t := by
  rw [trim_eq_trimStart_trimEnd, trimEnd_append h, ← trim_eq_trimStart_trimEnd]

/-- Only blank texts are trimmed away. -/
theorem trim_eq_nil_iff (t : Text) : trim t = [] ↔ AllBlank t := by
  refine ⟨fun h => ?_, fun h => by rw [trim, trimStart_of_allBlank h]; rfl⟩
  induction t with
  | nil => exact .nil
  | cons c t ih =>
    by_cases hc : isBlank c = true
    · have hsame : trim (c :: t) = trim t := trim_append_left (w := [c]) (.cons hc .nil) t
      exact .cons hc (ih (hsame ▸ h))
    · rw [trim_cons_of_not_isBlank hc] at h
      exact absurd h (List.cons_ne_nil _ _)

/-- A text is its trimmed text between white space. -/
theorem exists_eq_blank_trim_blank (t : Text) :
    ∃ before behind, AllBlank before ∧ AllBlank behind ∧ t = before ++ (trim t ++ behind) := by
  have hstart : t.takeWhile isBlank ++ trimStart t = t := List.takeWhile_append_dropWhile
  have hend : trim t ++ ((trimStart t).reverse.takeWhile isBlank).reverse = trimStart t := by
    rw [trim, trimEnd, dropEndWhile, ← List.reverse_append, List.takeWhile_append_dropWhile,
      List.reverse_reverse]
  refine ⟨t.takeWhile isBlank, ((trimStart t).reverse.takeWhile isBlank).reverse,
    fun c hc => List.mem_takeWhile_imp hc,
    fun c hc => List.mem_takeWhile_imp (List.mem_reverse.1 hc), ?_⟩
  rw [hend, hstart]

theorem trim_trim (t : Text) : trim (trim t) = trim t := by
  obtain ⟨before, behind, hbefore, hbehind, htext⟩ := exists_eq_blank_trim_blank t
  conv_rhs => rw [htext, trim_append_left hbefore, trim_append_right hbehind]

end MarkupDesk.Text
