/-
`Proofs/Markup/Sweep.lean` -- one key's sweep over a text, place by place.

`expandKey` searches for the next opener and cuts around it. Read from left to right it
does one of four things at each place: a character that no opener begins with is copied
(`expandKey_cons`), a marker is replaced and the sweep goes on behind it
(`expandKey_marker`), an opener directly followed by `}` gives up its brace only
(`expandKey_empty`), and an opener with no `}` behind it ends the sweep
(`expandKey_unclosed`). The proofs about several keys use these and no search.
-/
import MarkupDesk.Markup.Expansion
import MarkupDesk.Proofs.Text.Search

set_option autoImplicit false

namespace MarkupDesk.Markup

variable {key : Text} {spec : MarkerSpec} {t before body content behind : Text}

/-! ## 1. The sweep by what the search finds -/

theorem expandKey_of_none (h : Text.breakOn? (opener key) t = none) : expandKey key spec t = t := by
  rw [expandKey]
  split
  · rfl
  next found => rw [h] at found; cases found

/-- Where nothing closes the first opener nothing is replaced. -/
theorem expandKey_of_unclosed (h : Text.breakOn? (opener key) t = some (before, body))
    (hb : '}' ∉ body) : expandKey key spec t = t := by
  rw [expandKey]
  split
  · rfl
  next found =>
    obtain ⟨rfl, rfl⟩ : before = _ ∧ body = _ := by simpa [h] using found
    split
    · rfl
    next closed =>
      rw [Text.splitOnce?_eq_none_iff.2 hb] at closed
      cases closed

/-- Where the first opener is closed, its marker is replaced and the sweep goes on behind it.
If the content is empty only the brace is copied, and the sweep goes on behind the brace. -/
theorem expandKey_of_closed (h : Text.breakOn? (opener key) t = some (before, content ++ '}' :: behind))
    (hb : '}' ∉ content) :
    expandKey key spec t =
      if content.isEmpty then before ++ '{' :: expandKey key spec (key ++ ':' :: '}' :: behind)
      else before ++ spec.elementOf content ++ expandKey key spec behind := by
  rw [expandKey]
  split
  next found => rw [h] at found; cases found
  next found =>
    obtain ⟨rfl, rfl⟩ := Prod.mk.inj (Option.some.inj (h.symm.trans found))
    have hcut : Text.splitOnce? '}' (content ++ '}' :: behind) = some (content, behind) :=
      Text.splitOnce?_eq_some_iff.2 ⟨hb, rfl⟩
    split
    next closed => rw [hcut] at closed; cases closed
    next closed =>
      obtain ⟨rfl, rfl⟩ := Prod.mk.inj (Option.some.inj (hcut.symm.trans closed))
      cases content <;> rfl

/-! ## 2. The sweep place by place -/

theorem opener_append (key rest : Text) : opener key ++ rest = '{' :: (key ++ ':' :: rest) := by
  simp [opener]

@[simp] theorem expandKey_nil : expandKey key spec [] = [] :=
  expandKey_of_none (by simp [Text.breakOn?, opener])

/-- An opener that no `}` follows ends the sweep. -/
theorem expandKey_unclosed (h : '}' ∉ body) :
    expandKey key spec (opener key ++ body) = opener key ++ body :=
  expandKey_of_unclosed (Text.breakOn?_append _ _) h

/-- An opener that `}` follows directly is no marker; the sweep goes on behind its brace. -/
theorem expandKey_empty :
    expandKey key spec (opener key ++ '}' :: behind) =
      '{' :: expandKey key spec (key ++ ':' :: '}' :: behind) :=
  expandKey_of_closed (Text.breakOn?_append (opener key) ([] ++ '}' :: behind)) (by simp)

/-- A marker is replaced, and the sweep goes on behind it. -/
theorem expandKey_marker (hne : content ≠ []) (h : '}' ∉ content) :
    expandKey key spec (opener key ++ (content ++ '}' :: behind)) =
      spec.elementOf content ++ expandKey key spec behind := by
  rw [expandKey_of_closed (Text.breakOn?_append _ _) h, if_neg (by simpa using hne),
    List.nil_append]

/-- A character that no opener begins with is copied. -/
theorem expandKey_cons {c : Char} (h : ¬ opener key <+: c :: t) :
    expandKey key spec (c :: t) = c :: expandKey key spec t := by
  have hsearch := Text.breakOn?_cons h
  cases hfound : Text.breakOn? (opener key) t with
  | none =>
    rw [hfound] at hsearch
    rw [expandKey_of_none hsearch, expandKey_of_none hfound]
  | some parts =>
    obtain ⟨before, body⟩ := parts
    rw [hfound] at hsearch
    -- found one character further on, the marker is the same one, closed or not
    by_cases hclosed : '}' ∈ body
    · obtain ⟨content, behind, rfl, hcontent⟩ := List.eq_append_cons_of_mem hclosed
      rw [expandKey_of_closed hsearch hcontent, expandKey_of_closed hfound hcontent]
      cases content <;> rfl
    · rw [expandKey_of_unclosed hsearch hclosed, expandKey_of_unclosed hfound hclosed]

/-! ## 3. Several keys -/

@[simp] theorem expandAll_nil (t : Text) : expandAll [] t = t := rfl

@[simp] theorem expandAll_cons (entry : Text × MarkerSpec) (entries : List (Text × MarkerSpec))
    (t : Text) : expandAll (entry :: entries) t = expandAll entries (expandKey entry.1 entry.2 t) :=
  rfl

theorem expandAll_append (front back : List (Text × MarkerSpec)) (t : Text) :
    expandAll (front ++ back) t = expandAll back (expandAll front t) := List.foldl_append

end MarkupDesk.Markup
