/-
`Proofs/Html/Escape.lean` -- escaping is exact and can be undone.

Escaping goes over the text once. The rule it follows speaks of five replacements that go over
the whole text, one after the other. Since `&` is replaced first, none of them finds what an
earlier one has written, and the two ways agree (`escape_eq_foldl`).

The way back goes over the text once, too: `unescape` writes each entity that it meets as its
character and goes on behind it. An escaped text has its `&` only where an entity begins, so the
entities that are met are those that were written (`unescape_escape`). What was escaped twice is
got back by going back twice, so a marker loses nothing of its content but the white space around
it.
-/
import MarkupDesk.Proofs.Markup.Suggested
import MarkupDesk.Proofs.Text.Replace

set_option autoImplicit false

namespace MarkupDesk

/-! ## 1. Entities and their characters -/

namespace Markup.Entity

/-- The character that the entity stands for. -/
def char : Entity → Char
  | amp => '&'
  | lt => '<'
  | gt => '>'
  | quot => '"'
  | apos => '\''

/-- The character of an entity is escaped as the entity. -/
theorem escapeChar_char (entity : Entity) : Html.escapeChar entity.char = entity.text := by
  cases entity <;> rfl

/-- Each special character has its entity. -/
theorem exists_char_of_mem {c : Char} (h : c ∈ specialChars) : ∃ entity : Entity, entity.char = c := by
  rcases List.mem_cons.1 h with rfl | h
  · exact ⟨.lt, rfl⟩
  rcases List.mem_cons.1 h with rfl | h
  · exact ⟨.gt, rfl⟩
  rcases List.mem_cons.1 h with rfl | h
  · exact ⟨.quot, rfl⟩
  rcases List.mem_cons.1 h with rfl | h
  · exact ⟨.apos, rfl⟩
  · exact ⟨.amp, (List.mem_singleton.1 h).symm⟩

/-- An entity begins with `&`, and there is no other `&` in it. -/
theorem exists_body (entity : Entity) : ∃ body, entity.text = '&' :: body ∧ '&' ∉ body := by
  cases entity <;> exact ⟨_, rfl, by decide⟩

end Markup.Entity

namespace Html

open Markup (Entity MarkerSpec specialChars)

/-- All other characters are left as they are. -/
theorem escapeChar_of_notMem {c : Char} (h : c ∉ specialChars) : escapeChar c = [c] := by
  unfold escapeChar
  split
  · exact absurd (by decide) h
  · exact absurd (by decide) h
  · exact absurd (by decide) h
  · exact absurd (by decide) h
  · exact absurd (by decide) h
  · rfl

/-! ## 2. One replacement after the other -/

/-- The entities in the order in which their characters are replaced. -/
def entities : List Entity := [.amp, .lt, .gt, .quot, .apos]

/-- **Escaping is replacing the five characters, one after the other.** -/
theorem escape_eq_foldl (t : Text) :
    escape t = entities.foldl (fun t entity => Text.replaceAll [entity.char] entity.text t) t := by
  simp only [entities, List.foldl_cons, List.foldl_nil, Text.replaceAll_char, List.flatMap_assoc]
  refine List.flatMap_congr fun c _ => ?_
  by_cases hc : c ∈ specialChars
  · obtain ⟨entity, rfl⟩ := Entity.exists_char_of_mem hc
    cases entity <;> rfl
  · rw [escapeChar_of_notMem hc]
    simp only [specialChars, List.mem_cons, List.not_mem_nil, or_false, not_or] at hc
    simp [Entity.char, hc]

/-! ## 3. What an escaped text looks like -/

/-- Each of the four characters is in an escaped text nowhere. -/
theorem notMem_escape {c : Char} (h : c ∈ ['<', '>', '"', '\'']) (t : Text) : c ∉ escape t := by
  have hall : ∀ c ∈ ['<', '>', '"', '\''], c ∈ specialChars ∧ ∀ entity ∈ entities, c ∉ entity.text := by
    intro c hc
    simp only [List.mem_cons, List.not_mem_nil, or_false] at hc
    rcases hc with rfl | rfl | rfl | rfl <;> decide
  intro hmem
  refine (Markup.mem_of_mem_escape (fun entity => (hall c h).2 entity ?_) hmem).2 (hall c h).1
  cases entity <;> decide

/-- An `&` in an escaped text is where an entity begins. -/
theorem exists_entity_of_amp {t front back : Text} (h : escape t = front ++ '&' :: back) :
    ∃ entity : Entity, entity.text <+: '&' :: back := by
  induction t generalizing front with
  | nil => cases front <;> cases h
  | cons c t ih =>
    rw [escape_cons] at h
    rcases Text.append_eq_cut h with ⟨rest, hhere, rfl⟩ | ⟨rest, -, hlater⟩
    · by_cases hc : c ∈ specialChars
      · obtain ⟨entity, rfl⟩ := Entity.exists_char_of_mem hc
        obtain ⟨body, hbody, hnot⟩ := entity.exists_body
        rw [Entity.escapeChar_char, hbody] at hhere
        -- the `&` at the cut is the one that the entity begins with
        cases front with
        | nil =>
          refine ⟨entity, escape t, ?_⟩
          rw [hbody, hhere]
          rfl
        | cons x front =>
          obtain ⟨-, hbehind⟩ := List.cons.inj hhere
          exact absurd (hbehind ▸ List.mem_append_right front List.mem_cons_self) hnot
      · rw [escapeChar_of_notMem hc] at hhere
        have hmem : '&' ∈ [c] := hhere ▸ List.mem_append_right front List.mem_cons_self
        rw [List.mem_singleton] at hmem
        exact absurd (hmem ▸ by decide) hc
    · exact ih hlater

/-! ## 4. The way back -/

/-- The entity that the text begins with, and the text behind it. -/
def entityAt? (t : Text) : Option (Entity × Text) :=
  entities.findSome? fun entity => (entity.text.isPrefixOf? t).map fun behind => (entity, behind)

/-- An entity that is met is what the text begins with. -/
theorem eq_append_of_entityAt? {t behind : Text} {entity : Entity}
    (h : entityAt? t = some (entity, behind)) : t = entity.text ++ behind := by
  obtain ⟨found, -, hfound⟩ := List.exists_of_findSome?_eq_some h
  obtain ⟨rest, hrest, heq⟩ := Option.map_eq_some_iff.1 hfound
  obtain ⟨rfl, rfl⟩ := Prod.mk.inj heq
  exact Text.isPrefixOf?_eq_some_iff.1 hrest

/-- The text with each entity, from left to right, written as its character. What is written is
not looked at again. -/
def unescape (t : Text) : Text :=
  match t with
  | [] => []
  | c :: rest =>
    match _h : entityAt? (c :: rest) with
    | some (entity, behind) => entity.char :: unescape behind
    | none => c :: unescape rest
termination_by t.length
decreasing_by
  · rw [eq_append_of_entityAt? _h, List.length_append]
    obtain ⟨body, hbody, -⟩ := entity.exists_body
    rw [hbody, List.length_cons]
    omega
  · simp

/-- No entity begins like another one goes on. -/
theorem entityAt?_append (entity : Entity) (t : Text) :
    entityAt? (entity.text ++ t) = some (entity, t) := by
  cases entity <;> cases t <;> rfl

/-- Only an ampersand begins an entity. -/
theorem entityAt?_of_ne {c : Char} (h : c ≠ '&') (t : Text) : entityAt? (c :: t) = none := by
  rw [entityAt?, List.findSome?_eq_none_iff]
  intro entity _
  obtain ⟨body, hbody, -⟩ := entity.exists_body
  have hno : ¬ entity.text <+: c :: t := by
    rw [hbody]
    exact fun hprefix => h (List.cons_prefix_cons.1 hprefix).1.symm
  rw [Text.isPrefixOf?_eq_none_iff.2 hno, Option.map_none]

/-- An entity is written as its character, and the way back goes on behind it. -/
theorem unescape_append (entity : Entity) (t : Text) :
    unescape (entity.text ++ t) = entity.char :: unescape t := by
  have hfound := entityAt?_append entity t
  obtain ⟨body, hbody, -⟩ := entity.exists_body
  rw [hbody, List.cons_append] at hfound ⊢
  -- the decoder looks for an entity first, and the one that was written is the one it finds
  rw [unescape]
  split
  next found behind h =>
    rw [hfound] at h
    obtain ⟨rfl, rfl⟩ := Prod.mk.inj (Option.some.inj h)
    rfl
  next h =>
    rw [hfound] at h
    cases h

/-- All that is no ampersand is left as it is on the way back. -/
theorem unescape_cons_of_ne {c : Char} (h : c ≠ '&') (t : Text) :
    unescape (c :: t) = c :: unescape t := by
  rw [unescape]
  split
  next found behind hfound =>
    rw [entityAt?_of_ne h] at hfound
    cases hfound
  next => rfl

/-- **An escaped text tells what was escaped.** -/
theorem unescape_escape (t : Text) : unescape (escape t) = t := by
  induction t with
  | nil => rw [escape_nil, unescape]
  | cons c t ih =>
    rw [escape_cons]
    by_cases hc : c ∈ specialChars
    · obtain ⟨entity, rfl⟩ := Entity.exists_char_of_mem hc
      rw [Entity.escapeChar_char, unescape_append, ih]
    · have hne : c ≠ '&' := by
        rintro rfl
        exact hc (by decide)
      rw [escapeChar_of_notMem hc, List.singleton_append, unescape_cons_of_ne hne, ih]

/-- **Nothing is lost by escaping**: two texts that are escaped to the same are the same. -/
theorem escape_injective : Function.Injective escape :=
  Function.LeftInverse.injective unescape_escape

/-! ## 5. Escaping -/

/-- **Escaping is exact and can be undone.** It is what the five replacements make of the text, one
after the other. What comes out has none of `<`, `>`, `"` and `'`, and an `&` only where an entity
begins. Going over it once from left to right gives the text back, whatever stood there, so
different texts have different escapes. The element of a marker in an escaped line holds the
content escaped twice, and going back twice gives it back, trimmed. -/
theorem escape_exact :
    (∀ t : Text,
      escape t = entities.foldl (fun t entity => Text.replaceAll [entity.char] entity.text t) t ∧
        (∀ c ∈ ['<', '>', '"', '\''], c ∉ escape t) ∧
        (∀ front back, escape t = front ++ '&' :: back →
          ∃ entity ∈ entities, entity.text <+: '&' :: back) ∧
        unescape (escape t) = t ∧
        ∀ spec : MarkerSpec, ∃ inner, spec.elementOf (escape t) = spec.element inner ∧
          unescape (unescape inner) = Text.trim t) ∧
      Function.Injective escape := by
  refine ⟨fun t => ⟨escape_eq_foldl t, fun c hc => notMem_escape hc t, fun front back h => ?_,
    unescape_escape t, fun spec => ⟨escape (escape (Text.trim t)), ?_, ?_⟩⟩, escape_injective⟩
  · obtain ⟨entity, hentity⟩ := exists_entity_of_amp h
    exact ⟨entity, by cases entity <;> decide, hentity⟩
  · rw [MarkerSpec.elementOf, Markup.trim_escape]
  · -- the element holds the text escaped twice, as escaping runs again when the marker is expanded
    rw [unescape_escape, unescape_escape]

/-- What looks escaped is escaped all the same, and the last `&` of the escape begins an entity, like
the others. -/
theorem escape_exact_entity :
    escape "<&lt;'" = "&lt;&amp;lt;" ++ '&' :: "#039;" ∧
      (∃ entity ∈ entities, entity.text <+: '&' :: ("#039;" : Text)) ∧
      '<' ∈ ['<', '>', '"', '\''] ∧ '<' ∉ escape "<&lt;'" ∧
      unescape (escape "<&lt;'") = "<&lt;'" := by
  have hescape : escape "<&lt;'" = "&lt;&amp;lt;" ++ '&' :: "#039;" := by decide
  obtain ⟨-, hnone, hamp, hback, -⟩ := escape_exact.1 "<&lt;'"
  exact ⟨hescape, hamp _ _ hescape, by decide, hnone '<' (by decide), hback⟩

end Html

end MarkupDesk
