/-
`Proofs/Editing/Completion.lean` -- what is suggested, and what accepting it makes of the text.

A suggestion is made only where a `{` stands before the cursor, with nothing but the characters
of a key between them (`suggest?_eq_some`). So the text splits at that brace and at the cursor,
and accepting a key replaces just the part in the middle (`applySuggestion?_eq`).
-/
import MarkupDesk.Editing.Completion

set_option autoImplicit false

namespace MarkupDesk.Editing

variable {t before typed key : Text} {cursor : Nat} {keys : List Text} {s : Suggestion}

/-! ## 1. What was typed -/

/-- What is in front of the first of some character, if there is one, is followed by it. -/
theorem exists_of_takeWhile_shorter {l : Text} {c : Char}
    (h : (l.takeWhile (· ≠ c)).length < l.length) :
    ∃ rest, l = l.takeWhile (· ≠ c) ++ c :: rest := by
  have hwhole : l.takeWhile (· ≠ c) ++ l.dropWhile (· ≠ c) = l := List.takeWhile_append_dropWhile
  cases hrest : l.dropWhile (· ≠ c) with
  | nil =>
    rw [hrest, List.append_nil] at hwhole
    rw [hwhole] at h
    exact absurd h (Nat.lt_irrefl _)
  | cons first rest =>
    -- what stopped the scan is the character itself
    have hhead := List.head?_dropWhile_not (· ≠ c) l
    rw [hrest] at hhead
    have hfirst : first = c := by simpa using hhead
    exact ⟨rest, by rw [← hfirst, ← hrest, hfirst, hwhole]⟩

/-- What was typed of a key stands behind a brace. -/
theorem typedKey?_eq_some (h : typedKey? before = some typed) :
    ∃ pre, before = pre ++ '{' :: typed := by
  unfold typedKey? at h
  simp only at h
  split at h
  next hshorter =>
    obtain rfl := Option.some.inj h
    -- both scans go backwards from the cursor
    obtain ⟨rest, hline⟩ := exists_of_takeWhile_shorter hshorter
    have hwhole : before.reverse.takeWhile (· ≠ '\n') ++ before.reverse.dropWhile (· ≠ '\n') =
        before.reverse := List.takeWhile_append_dropWhile
    generalize before.reverse.takeWhile (· ≠ '\n') = line at hline hwhole ⊢
    generalize before.reverse.dropWhile (· ≠ '\n') = others at hwhole
    have hbackwards : before.reverse = line.takeWhile (· ≠ '{') ++ '{' :: (rest ++ others) := by
      rw [← hwhole, ← List.cons_append, ← List.append_assoc, ← hline]
    refine ⟨(rest ++ others).reverse, ?_⟩
    rw [List.reverse_eq_iff.1 hbackwards, List.reverse_append, List.reverse_cons, List.append_assoc]
    rfl
  next => cases h

/-! ## 2. Suggestions -/

/-- What a suggestion says: the brace, the characters of a key that were typed behind it, and the
keys that begin with them. -/
theorem suggest?_eq_some (h : suggest? t cursor keys = some s) :
    ∃ pre typed, t.take cursor = pre ++ '{' :: typed ∧ pre.length = s.brace ∧
      typed.all isKeyChar = true ∧ s.keys = (keys.filter (fits typed)).take maxSuggestions ∧
      s.keys ≠ [] := by
  unfold suggest? at h
  simp only at h
  split at h
  next => cases h
  next typed htyped =>
    split at h
    next hfound =>
      obtain rfl := Option.some.inj h
      -- what was typed and the brace in front of it end at the cursor
      obtain ⟨pre, hpre⟩ := typedKey?_eq_some htyped
      refine ⟨pre, typed, hpre, ?_, hfound.1, rfl, ?_⟩
      · show pre.length = (t.take cursor).length - typed.length - 1
        rw [hpre, List.length_append, List.length_cons]
        omega
      · intro hnil
        have hnone := hfound.2
        simp only at hnil
        rw [hnil] at hnone
        cases hnone
    next => cases h

/-- Only keys of the configuration are suggested. -/
theorem mem_of_suggest? (h : suggest? t cursor keys = some s) (hkey : key ∈ s.keys) :
    key ∈ keys := by
  obtain ⟨_, _, _, _, _, hkeys, _⟩ := suggest?_eq_some h
  rw [hkeys] at hkey
  exact (List.mem_filter.1 (List.mem_of_mem_take hkey)).1

/-! ## 3. Accepting -/

/-- A text without the closing brace at its beginning, if it has one. -/
def withoutCloser : Text → Text
  | '}' :: rest => rest
  | t => t

/-- An accepted key is followed by one closing brace, whether the text had it already or it is
added. -/
theorem closer_append (post : Text) :
    (if post.head? = some '}' then [] else ['}']) ++ post = '}' :: withoutCloser post := by
  by_cases h : post.head? = some '}'
  · obtain ⟨rest, rfl⟩ := List.head?_eq_some_iff.1 h
    rfl
  · rw [if_neg h]
    unfold withoutCloser
    split
    · exact absurd rfl h
    · rfl

/-- **Accepting a key** replaces what stands between the brace and the cursor, that included and
a closing brace behind it too, by a marker without content, and the cursor goes into it. -/
theorem applySuggestion?_eq (pre middle post key : Text) (h : middle ≠ []) :
    applySuggestion? (pre ++ middle ++ post) (pre ++ middle).length pre.length key =
      some (.caret (pre ++ '{' :: key ++ [':', '}'] ++ withoutCloser post)
        (pre ++ '{' :: key ++ [':']).length) := by
  have hbefore : pre.length < (pre ++ middle).length := by
    have hpos := List.length_pos_iff.2 h
    rw [List.length_append]
    omega
  have hinside : (pre ++ middle).length ≤ (pre ++ middle ++ post).length := by
    simp only [List.length_append]
    omega
  -- the brace is in front of the cursor, which is in the text
  unfold applySuggestion?
  rw [if_pos ⟨hbefore, hinside⟩]
  simp only
  rw [List.drop_left, List.append_assoc _ _ post, closer_append, List.append_assoc pre middle,
    List.take_left]
  simp [Edit.caret, List.append_assoc, Nat.add_assoc]

end MarkupDesk.Editing
