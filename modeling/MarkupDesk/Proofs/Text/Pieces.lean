/-
`Proofs/Text/Pieces.lean` -- a text cut at a character, and put together again.

`splitOn` gives the pieces between the occurrences of a character, `join` puts texts together
with one between neighbours. No piece has the character in it (`notMem_of_mem_splitOn`), and the
pieces joined are the text (`join_splitOn`), so to speak of a text is to speak of its pieces.
-/
import MarkupDesk.Text.Basic

set_option autoImplicit false

namespace MarkupDesk.Text

/-! ## 1. Cutting -/

theorem splitOn_ne_nil (c : Char) (t : Text) : splitOn c t ≠ [] := by
  cases t with
  | nil => simp [splitOn]
  | cons x t =>
    rw [splitOn]
    split
    · simp
    · split <;> simp

/-- The pieces on both sides of the character stand behind each other. -/
theorem splitOn_append (c : Char) (s t : Text) :
    splitOn c (s ++ c :: t) = splitOn c s ++ splitOn c t := by
  induction s with
  | nil => simp [splitOn]
  | cons x s ih =>
    rw [List.cons_append, splitOn, splitOn, ih]
    by_cases hx : x = c
    · rw [if_pos hx, if_pos hx, List.cons_append]
    · rw [if_neg hx, if_neg hx]
      cases hs : splitOn c s with
      | nil => exact absurd hs (splitOn_ne_nil c s)
      | cons piece pieces => rfl

theorem splitOn_of_notMem {c : Char} {t : Text} (h : c ∉ t) : splitOn c t = [t] := by
  induction t with
  | nil => rfl
  | cons x t ih =>
    obtain ⟨hx, ht⟩ := not_or.1 (mt List.mem_cons.2 h)
    rw [splitOn, if_neg (Ne.symm hx), ih ht]

/-- The character is in no piece. The induction is on the text: a character that is not the
one goes to the first piece of what is behind it. -/
theorem notMem_of_mem_splitOn {c : Char} {t piece : Text} (h : piece ∈ splitOn c t) :
    c ∉ piece := by
  induction t generalizing piece with
  | nil =>
    rw [splitOn, List.mem_singleton] at h
    rw [h]
    exact List.not_mem_nil
  | cons x t ih =>
    rw [splitOn] at h
    by_cases hx : x = c
    · rw [if_pos hx] at h
      rcases List.mem_cons.1 h with rfl | h
      · exact List.not_mem_nil
      · exact ih h
    · rw [if_neg hx] at h
      -- the character joins the first piece behind it, which there always is
      cases ht : splitOn c t with
      | nil => exact absurd ht (splitOn_ne_nil c t)
      | cons first others =>
        rw [ht] at h ih
        rcases List.mem_cons.1 h with rfl | h
        · intro hmem
          rcases List.mem_cons.1 hmem with heq | hmem
          · exact hx heq.symm
          · exact ih List.mem_cons_self hmem
        · exact ih (List.mem_cons_of_mem first h)

/-! ## 2. Putting together -/

theorem join_singleton (separator part : Text) : join separator [part] = part :=
  List.intercalate_singleton

theorem join_cons (c : Char) (part : Text) {parts : List Text} (h : parts ≠ []) :
    join [c] (part :: parts) = part ++ c :: join [c] parts := by
  rw [join, List.intercalate_cons_of_ne_nil h, List.append_assoc]
  rfl

/-- Parts are joined list by list, with the character between the two. -/
theorem join_append (c : Char) {parts parts' : List Text} (h : parts ≠ []) (h' : parts' ≠ []) :
    join [c] (parts ++ parts') = join [c] parts ++ c :: join [c] parts' := by
  induction parts with
  | nil => exact absurd rfl h
  | cons part parts ih =>
    by_cases hparts : parts = []
    · rw [hparts, List.singleton_append, join_cons c part h', join_singleton]
    · have hboth : parts ++ parts' ≠ [] := fun hnil => hparts (List.append_eq_nil_iff.1 hnil).1
      rw [List.cons_append, join_cons c part hboth, ih hparts, join_cons c part hparts,
        List.append_assoc, List.cons_append]

/-- The pieces joined are the text. -/
theorem join_splitOn (c : Char) (t : Text) : join [c] (splitOn c t) = t := by
  induction t with
  | nil => exact join_singleton _ _
  | cons x t ih =>
    rw [splitOn]
    by_cases hx : x = c
    · rw [if_pos hx, join_cons c [] (splitOn_ne_nil c t), ih, hx, List.nil_append]
    · rw [if_neg hx]
      cases ht : splitOn c t with
      | nil => exact absurd ht (splitOn_ne_nil c t)
      | cons piece pieces =>
        rw [ht] at ih
        rw [← ih]
        cases pieces with
        | nil => rw [join_singleton, join_singleton]
        | cons next others =>
          rw [join_cons c _ (List.cons_ne_nil next others), join_cons c _ (List.cons_ne_nil next others),
            List.cons_append]

/-- The pieces with a separator behind each of them are the text with one behind it. -/
theorem flatMap_splitOn (c : Char) (t : Text) :
    ((splitOn c t).flatMap fun piece => piece ++ [c]) = t ++ [c] := by
  induction t with
  | nil => rfl
  | cons x t ih =>
    rw [splitOn]
    by_cases hx : x = c
    · rw [if_pos hx, List.flatMap_cons, ih, hx]
      rfl
    · rw [if_neg hx]
      cases ht : splitOn c t with
      | nil => exact absurd ht (splitOn_ne_nil c t)
      | cons piece pieces =>
        rw [ht, List.flatMap_cons] at ih
        rw [List.cons_append, ← ih]
        rfl

/-! ## 3. Bytes -/

theorem byteLength_append (s t : Text) : byteLength (s ++ t) = byteLength s + byteLength t := by
  induction s with
  | nil => rw [List.nil_append, byteLength, Nat.zero_add]
  | cons c s ih => rw [List.cons_append, byteLength, byteLength, ih, Nat.add_assoc]

end MarkupDesk.Text
