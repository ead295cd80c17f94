/-
`Proofs/Markup/Substitution.lean` -- a sweep is a substitution.

What a key stands for is said without a search: the markers of a key are the occurrences of
`{key:content}` with a content that is not empty and has no `}` in it, and they are replaced
one after the other from the left (`substitute`). A sweep of `expandKey` tries far fewer
places. It jumps to the next opener, it goes on one character later where the content is
empty, and it gives up the whole rest where no `}` follows an opener. None of this loses a
marker, whatever the key is (`expandKey_eq_substitute`).

The one argument is about giving up: a marker further on would have its opener behind this
one, and its closing brace behind both (`expandKey_behind_unclosed`). The key may hold braces and
openers may overlap, so it is an argument about what is left of the text, not about braces.
-/
import Mathlib.Data.List.TakeWhile
import MarkupDesk.Proofs.Markup.Sweep

set_option autoImplicit false

namespace MarkupDesk.Markup

variable {key : Text} {spec : MarkerSpec} {t body content behind : Text}

/-! ## 1. Markers -/

/-- The text begins with a marker of the key: the opener, a content that is not empty and
has no closing brace, and that brace. -/
structure BeginsWith (key content behind t : Text) : Prop where
  text : t = opener key ++ (content ++ '}' :: behind)
  filled : content ≠ []
  closed : '}' ∉ content

/-- The content of the marker that the text begins with, and what stands behind the marker. -/
def marker? (key t : Text) : Option (Text × Text) :=
  match (opener key).isPrefixOf? t with
  | none => none
  | some body =>
    match body.dropWhile (· ≠ '}') with
    | [] => none
    | _ :: behind =>
      let content := body.takeWhile (· ≠ '}')
      if content.isEmpty then none else some (content, behind)

/-- What comes in front of the first `}`, and what comes behind it. -/
theorem cut_at_closer (h : '}' ∉ content) (behind : Text) :
    (content ++ '}' :: behind).takeWhile (· ≠ '}') = content ∧
      (content ++ '}' :: behind).dropWhile (· ≠ '}') = '}' :: behind := by
  have hcontent : ∀ c ∈ content, (decide (c ≠ '}')) = true := by
    intro c hc
    exact decide_eq_true fun heq => h (heq ▸ hc)
  constructor
  · rw [List.takeWhile_append_of_pos hcontent, List.takeWhile_cons_of_neg (by simp), List.append_nil]
  · rw [List.dropWhile_append_of_pos hcontent, List.dropWhile_cons_of_neg (by simp)]

/-- **A marker is found exactly where there is one**, and there is one way to read it. -/
theorem marker?_eq_some_iff :
    marker? key t = some (content, behind) ↔ BeginsWith key content behind t := by
  constructor
  · intro h
    unfold marker? at h
    split at h
    · exact absurd h (by simp)
    next body hbody =>
      split at h
      · exact absurd h (by simp)
      next closer rest hrest =>
        simp only at h
        split at h
        · exact absurd h (by simp)
        next hne =>
          obtain ⟨rfl, rfl⟩ := Prod.mk.inj (Option.some.inj h)
          -- the rest of the body begins with the first character that ends the content
          have hcloser : closer = '}' := by
            have hhead := List.head?_dropWhile_not (· ≠ '}') body
            rw [hrest] at hhead
            simpa using hhead
          have hwhole : body.takeWhile (· ≠ '}') ++ '}' :: rest = body := by
            rw [hcloser] at hrest
            rw [← hrest]
            exact List.takeWhile_append_dropWhile
          refine ⟨?_, by simpa using hne, fun hmem => ?_⟩
          · rw [hwhole]
            exact Text.isPrefixOf?_eq_some_iff.1 hbody
          · exact absurd (List.mem_takeWhile_imp hmem) (by simp)
  · rintro ⟨rfl, hne, hclosed⟩
    obtain ⟨htake, hdrop⟩ := cut_at_closer hclosed behind
    unfold marker?
    rw [Text.isPrefixOf?_append]
    simp only [htake, hdrop]
    rw [if_neg (by simpa using hne)]

/-- No marker is found exactly where the text begins with none. -/
theorem marker?_eq_none_iff :
    marker? key t = none ↔ ∀ content behind, ¬ BeginsWith key content behind t := by
  rw [Option.eq_none_iff_forall_ne_some]
  constructor
  · intro h content behind hbegins
    exact h (content, behind) (marker?_eq_some_iff.2 hbegins)
  · intro h parts hparts
    exact h parts.1 parts.2 (marker?_eq_some_iff.1 hparts)

theorem BeginsWith.length_lt (h : BeginsWith key content behind t) : behind.length < t.length := by
  rw [h.text]
  simp only [List.length_append, List.length_cons]
  omega

/-! ## 2. Substitution -/

/-- Every marker of the key replaced. At each place, from left to right, a marker is looked
for; behind a marker it goes on right behind its closing brace, and a character that no marker
begins with is copied. -/
def substitute (key : Text) (spec : MarkerSpec) (t : Text) : Text :=
  match t with
  | [] => []
  | c :: rest =>
    match _h : marker? key (c :: rest) with
    | some (content, behind) =>
      spec.openingTag ++ Html.escape (Text.trim content) ++ spec.closingTag
        ++ substitute key spec behind
    | none => c :: substitute key spec rest
termination_by t.length
decreasing_by
  · exact (marker?_eq_some_iff.1 _h).length_lt
  · simp

/-! ## 3. Where the sweep gives up -/

/-- Behind an opener that no `}` follows the sweep changes nothing: what stands behind a later
opener is the end of what stands behind this one. -/
theorem expandKey_behind_unclosed (h : '}' ∉ body) :
    expandKey key spec (key ++ ':' :: body) = key ++ ':' :: body := by
  cases hfound : Text.breakOn? (opener key) (key ++ ':' :: body) with
  | none => exact expandKey_of_none hfound
  | some parts =>
    obtain ⟨before, later⟩ := parts
    refine expandKey_of_unclosed hfound fun hmem => h ?_
    have htext : key ++ ':' :: body = (before ++ opener key) ++ later := Text.breakOn?_eq_some hfound
    have hlater : later <:+ key ++ ':' :: body := ⟨before ++ opener key, htext.symm⟩
    have hbody : body <:+ key ++ ':' :: body := ⟨key ++ [':'], by simp⟩
    -- what is behind the marker that was found is a suffix of the body, so it has no closing brace
    -- either
    have hlength : later.length ≤ body.length := by
      have hsame := congrArg List.length htext
      simp only [opener, List.length_append, List.length_cons, List.length_nil] at hsame
      omega
    exact (List.suffix_of_suffix_length_le hlater hbody hlength).subset hmem

/-! ## 4. The sweep -/

/-- A marker is replaced by its element. -/
theorem expandKey_of_beginsWith (h : BeginsWith key content behind t) :
    expandKey key spec t = spec.elementOf content ++ expandKey key spec behind := by
  rw [h.text]
  exact expandKey_marker h.filled h.closed

/-- A character that no marker begins with is copied, and the sweep is as good as begun anew
behind it. -/
theorem expandKey_of_not_beginsWith {c : Char}
    (h : ∀ content behind, ¬ BeginsWith key content behind (c :: t)) :
    expandKey key spec (c :: t) = c :: expandKey key spec t := by
  by_cases hopener : opener key <+: c :: t
  · obtain ⟨body, hbody⟩ := hopener
    obtain ⟨rfl, hkey⟩ : '{' = c ∧ key ++ ':' :: body = t := by
      rw [opener_append] at hbody
      exact List.cons.inj hbody
    by_cases hclosed : '}' ∈ body
    · obtain ⟨content, behind, rfl, hcontent⟩ := List.eq_append_cons_of_mem hclosed
      have hempty : content = [] := by
        by_contra hne
        exact h content behind ⟨hbody.symm, hne, hcontent⟩
      rw [← hbody, ← hkey, hempty]
      exact expandKey_empty
    · -- the sweep ends here, and there is nothing left for it to find
      rw [← hbody, expandKey_unclosed hclosed, ← hkey, expandKey_behind_unclosed hclosed]
      exact opener_append key body
  · exact expandKey_cons hopener

/-- **A sweep is a substitution**, whatever the key is. -/
theorem expandKey_eq_substitute (key : Text) (spec : MarkerSpec) (t : Text) :
    expandKey key spec t = substitute key spec t := by
  fun_induction substitute key spec t with
  | case1 => exact expandKey_nil
  | case2 c rest content behind hfound ih =>
    rw [expandKey_of_beginsWith (marker?_eq_some_iff.1 hfound), ih]
    rfl
  | case3 c rest hnone ih =>
    rw [expandKey_of_not_beginsWith (marker?_eq_none_iff.1 hnone), ih]

/-- **The markers of a map are substituted one key after the other**, in the order of the map.
There is nothing to ask of the keys: they may hold braces and colons, or be empty. -/
theorem expandMarkers_eq_substitutions (map : MarkerMap) (t : Text) :
    expandMarkers (some map) t =
      map.entries.foldl (fun text entry => substitute entry.1 entry.2 text) t := by
  show map.entries.foldl (fun text entry => expandKey entry.1 entry.2 text) t = _
  congr 1
  funext text entry
  exact expandKey_eq_substitute entry.1 entry.2 text

/-- The key is empty, an opener has no content, and another one is not closed. -/
example : substitute [] ⟨['b'], none⟩ "\x7b:\x7d\x7b: x \x7d\x7b:".toList =
    "\x7b:\x7d<b>x</b>\x7b:".toList := by
  decide +kernel

end MarkupDesk.Markup
