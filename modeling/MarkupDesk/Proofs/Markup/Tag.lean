/-
`Proofs/Markup/Tag.lean` -- the tags in a text, and when they are nested.

`tagsIn` reads the tags off a text: every `<` begins one, which reaches to the next `>`.
`closeTags` is the usual reading of nested tags with the names that are still open, the
one opened last in front; tags are `Balanced` if every closing tag closes the one opened
last and nothing stays open.

Where keys, tags and classes are words, no angle stands inside a tag, and the tags that an
element is written with are read as its tag's name (`tagsIn_openingTag`, `tagsIn_closingTag`).
-/
import MarkupDesk.Proofs.Markup.Passes

set_option autoImplicit false

namespace MarkupDesk.Markup

/-! ## 1. Tags -/

/-- A tag, by its name. -/
inductive Tag where
  | opening (name : Text)
  | closing (name : Text)
  deriving DecidableEq, Repr

/-- The tag with this text between `<` and `>`. -/
def tagOf : Text → Tag
  | '/' :: name => .closing name
  | t => .opening (t.takeWhile (· != ' '))

/-- The tags of a text. -/
def tagsIn : Text → List Tag
  | [] => []
  | c :: rest => if c = '<' then tagOf (rest.takeWhile (· != '>')) :: tagsIn rest else tagsIn rest

/-- The names that are open behind the tags, the one opened last in front; `none` where a
tag closes another name than that. -/
def closeTags : List Text → List Tag → Option (List Text)
  | names, [] => some names
  | names, .opening name :: tags => closeTags (name :: names) tags
  | [], .closing _ :: _ => none
  | last :: names, .closing name :: tags => if last = name then closeTags names tags else none

/-- Every closing tag closes the tag opened last, and nothing stays open. -/
def Balanced (tags : List Tag) : Prop := closeTags [] tags = some []

instance (tags : List Tag) : Decidable (Balanced tags) := inferInstanceAs (Decidable (_ = _))

theorem closeTags_append (names : List Text) (tags others : List Tag) :
    closeTags names (tags ++ others) = (closeTags names tags).bind (closeTags · others) := by
  fun_induction closeTags names tags with
  | case1 names => simp
  | case2 names name tags ih => simpa [closeTags] using ih
  | case3 name tags => simp [closeTags]
  | case4 names name tags ih => simpa [closeTags] using ih
  | case5 last names name tags hne => simp [closeTags, hne]

/-- Tags that can be read on some open elements can be read above more. -/
theorem closeTags_weaken {names names' : List Text} {tags : List Tag}
    (h : closeTags names tags = some names') (below : List Text) :
    closeTags (names ++ below) tags = some (names' ++ below) := by
  fun_induction closeTags names tags with
  | case1 names => simpa [closeTags] using h
  | case2 names name tags ih => simpa [closeTags] using ih h
  | case3 name tags => cases h
  | case4 names name tags ih => simpa [closeTags] using ih h
  | case5 last names name tags hne => cases h

namespace Balanced

theorem nil : Balanced [] := rfl

theorem append {tags others : List Tag} (h : Balanced tags) (h' : Balanced others) :
    Balanced (tags ++ others) := by
  rw [Balanced, closeTags_append, h]
  exact h'

theorem flatMap {α : Type} {parts : List α} {f : α → List Tag} (h : ∀ part ∈ parts, Balanced (f part)) :
    Balanced (parts.flatMap f) := by
  induction parts with
  | nil => exact nil
  | cons part parts ih =>
    rw [List.flatMap_cons]
    exact (h part List.mem_cons_self).append (ih fun p hp => h p (List.mem_cons_of_mem _ hp))

/-- Balanced tags between an opening tag and the closing tag of its name are balanced. -/
theorem wrap {tags : List Tag} (h : Balanced tags) (name : Text) :
    Balanced (.opening name :: tags ++ [.closing name]) := by
  have hinner : closeTags [name] tags = some [name] := closeTags_weaken h [name]
  rw [Balanced, List.cons_append, closeTags, closeTags_append, hinner]
  simp [closeTags]

end Balanced

/-! ## 2. Reading tags -/

/-- A text without an angle has no tags. -/
theorem tagsIn_append_of_notMem {t : Text} (h : '<' ∉ t) (rest : Text) :
    tagsIn (t ++ rest) = tagsIn rest := by
  induction t with
  | nil => rfl
  | cons c t ih =>
    obtain ⟨hc, ht⟩ := not_or.1 (mt List.mem_cons.2 h)
    rw [List.cons_append, tagsIn, if_neg (Ne.symm hc), ih ht]

theorem takeWhile_append_stop {p : Char → Bool} {t : Text} (h : ∀ c ∈ t, p c = true) {stop : Char}
    (hstop : p stop = false) (rest : Text) : (t ++ stop :: rest).takeWhile p = t := by
  rw [List.takeWhile_append_of_pos h, List.takeWhile_cons, hstop]
  simp

/-- A tag without angles inside it is read as one tag. -/
theorem tagsIn_tag (body : Text) (hopen : '<' ∉ body) (hclose : '>' ∉ body) (rest : Text) :
    tagsIn ('<' :: body ++ '>' :: rest) = tagOf body :: tagsIn rest := by
  have hbody : ∀ c ∈ body, (c != '>') = true := fun c hc => by
    simpa using fun he : c = '>' => hclose (he ▸ hc)
  rw [List.cons_append, tagsIn, if_pos rfl, takeWhile_append_stop hbody (by decide),
    tagsIn_append_of_notMem hopen, tagsIn, if_neg (by decide)]

/-! ## 3. Configurations of words -/

/-- The text has only letters and digits of ASCII. -/
def IsWord (t : Text) : Prop := ∀ c ∈ t, c.isAlphanum = true

instance (t : Text) : Decidable (IsWord t) := List.decidableBAll _ t

/-- The key, the tag and the class are words. -/
def Entry.IsWords (entry : Entry) : Prop :=
  IsWord entry.1 ∧ IsWord entry.2.tag ∧ ∀ cls ∈ entry.2.cls, IsWord cls

instance (entry : Entry) : Decidable entry.IsWords := inferInstanceAs (Decidable (_ ∧ _ ∧ _))

/-- A character that is neither a letter nor a digit is in no word. -/
theorem IsWord.notMem {t : Text} (h : IsWord t) {c : Char} (hc : c.isAlphanum = false) : c ∉ t := by
  intro hmem
  rw [h c hmem] at hc
  cases hc

theorem IsWord.braceFree {t : Text} (h : IsWord t) : BraceFree t :=
  ⟨h.notMem (by decide), h.notMem (by decide)⟩

theorem Entry.IsWords.braceFree {entry : Entry} (h : entry.IsWords) : entry.2.BraceFree :=
  ⟨h.2.1.braceFree, fun cls hcls => (h.2.2 cls hcls).braceFree⟩

/-- What stands behind the name in an opening tag. -/
def classText (spec : MarkerSpec) : Text :=
  match spec.cls with
  | some cls => " class=\"" ++ cls ++ ['"']
  | none => []

theorem openingTag_eq (spec : MarkerSpec) :
    spec.openingTag = '<' :: (spec.tag ++ classText spec) ++ ['>'] := rfl

theorem takeWhile_classText (spec : MarkerSpec) :
    (classText spec).takeWhile (· != ' ') = [] := by
  unfold classText
  split <;> simp

/-- What stands in an opening tag is read as its tag: the name ends at the blank in front of
the class, and is not that of a closing tag. -/
theorem tagOf_opening {entry : Entry} (h : entry.IsWords) :
    tagOf (entry.2.tag ++ classText entry.2) = .opening entry.2.tag := by
  obtain ⟨-, htag, -⟩ := h
  have hname : ∀ c ∈ entry.2.tag, (c != ' ') = true := fun c hc => by
    simpa using fun he : c = ' ' => htag.notMem (by decide) (he ▸ hc)
  have hread : (entry.2.tag ++ classText entry.2).takeWhile (· != ' ') = entry.2.tag := by
    rw [List.takeWhile_append_of_pos hname, takeWhile_classText, List.append_nil]
  unfold tagOf
  split
  next name hslash =>
    -- the tag has no slash, and the text behind it begins with a space
    exfalso
    cases htext : entry.2.tag with
    | nil =>
      rw [htext, List.nil_append, classText] at hslash
      split at hslash <;> simp at hslash
    | cons c tag =>
      rw [htext, List.cons_append] at hslash
      have hmem : '/' ∈ entry.2.tag := by rw [htext, (List.cons.inj hslash).1]; simp
      exact htag.notMem (by decide) hmem
  next => rw [hread]

/-- An opening tag is read as one tag, since no angle stands in it. -/
theorem tagsIn_openingTag {entry : Entry} (h : entry.IsWords) (rest : Text) :
    tagsIn (entry.2.openingTag ++ rest) = .opening entry.2.tag :: tagsIn rest := by
  obtain ⟨-, htag, hcls⟩ := id h
  -- names and class are words, so the first angle behind the tag is its own
  have hangle : ∀ c : Char, c = '<' ∨ c = '>' → c ∉ entry.2.tag ++ classText entry.2 := by
    intro c hc hmem
    have halnum : c.isAlphanum = false := by rcases hc with rfl | rfl <;> decide
    rcases List.mem_append.1 hmem with hmem | hmem
    · exact htag.notMem halnum hmem
    · unfold classText at hmem
      split at hmem
      next cls hspec =>
        have hnot := (hcls cls hspec).notMem halnum
        rcases hc with rfl | rfl <;> simp [hnot] at hmem
      next => cases hmem
  rw [openingTag_eq, List.append_assoc, List.singleton_append,
    tagsIn_tag _ (hangle _ (.inl rfl)) (hangle _ (.inr rfl)), tagOf_opening h]

/-- A closing tag is read as one tag. -/
theorem tagsIn_closingTag {entry : Entry} (h : entry.IsWords) (rest : Text) :
    tagsIn (entry.2.closingTag ++ rest) = .closing entry.2.tag :: tagsIn rest := by
  obtain ⟨-, htag, -⟩ := h
  have hlangle : '<' ∉ entry.2.tag := htag.notMem (by decide)
  have hrangle : '>' ∉ entry.2.tag := htag.notMem (by decide)
  have hopen : '<' ∉ '/' :: entry.2.tag := by simp [hlangle]
  have hclose : '>' ∉ '/' :: entry.2.tag := by simp [hrangle]
  simpa [MarkerSpec.closingTag, tagOf] using tagsIn_tag _ hopen hclose rest

end MarkupDesk.Markup
