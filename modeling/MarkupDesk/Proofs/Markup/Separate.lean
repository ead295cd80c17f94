/-
`Proofs/Markup/Separate.lean` -- markers that do not cross.

Two markers cross where the opener of one stands in the content of another that is
expanded before it. `Separate` says that this does not happen: whatever marker of a key
the text before its pass has, its content holds no opener of a key configured later. Then
every pass finds its openers outside the elements that the passes before it wrote
(`exists_element_cut`), and the line stays a sequence of characters, entities and whole
elements (`tidy_expandAll`), whose tags are balanced.
-/
import MarkupDesk.Proofs.Markup.Tag

set_option autoImplicit false

namespace MarkupDesk.Markup

/-! ## 1. Openers in escaped text -/

/-- A text without special characters begins an escaped text only where it begins the text
itself. -/
theorem prefix_of_prefix_escape {w t : Text} (hw : ∀ c ∈ w, c ∉ specialChars)
    (h : w <+: Html.escape t) : w <+: t := by
  induction w generalizing t with
  | nil => exact List.nil_prefix
  | cons x w ih =>
    cases t with
    | nil => exact absurd (List.prefix_nil.1 h) (List.cons_ne_nil x w)
    | cons c t =>
      have hx : x ≠ '&' := by
        rintro rfl
        exact hw '&' List.mem_cons_self (by decide)
      rw [Html.escape_cons] at h
      -- an escaped character begins with the ampersand, which no word begins with
      rcases escapeChar_cases c with ⟨e, he⟩ | ⟨-, he⟩
      · rw [he] at h
        cases e <;> exact absurd (List.cons_prefix_cons.1 h).1 hx
      · rw [he, List.singleton_append, List.cons_prefix_cons] at h
        exact List.cons_prefix_cons.2 ⟨h.1, ih (fun y hy => hw y (List.mem_cons_of_mem _ hy)) h.2⟩

/-- Escaping makes no occurrence of a text that begins with `{` and needs no escape. -/
theorem infix_of_infix_escape {w t : Text} (hw : ∀ c ∈ '{' :: w, c ∉ specialChars)
    (h : '{' :: w <:+: Html.escape t) : '{' :: w <:+: t := by
  induction t with
  | nil => exact h
  | cons c t ih =>
    rw [Html.escape_cons] at h
    rcases escapeChar_cases c with ⟨e, he⟩ | ⟨-, he⟩
    · -- no entity has a brace in it, so the word begins behind it
      rw [he] at h
      refine (ih ?_).trans (List.infix_cons List.infix_rfl)
      cases e <;> simpa [Entity.text, List.infix_cons_iff, List.cons_prefix_cons] using h
    · rw [he, List.singleton_append, List.infix_cons_iff] at h
      rcases h with h | h
      · refine (prefix_of_prefix_escape hw ?_).isInfix
        rwa [Html.escape_cons, he]
      · exact (ih h).trans (List.infix_cons List.infix_rfl)

/-- The opener of a word is written with characters that need no escape. -/
theorem Entry.IsWords.opener_plain {entry : Entry} (h : entry.IsWords) :
    ∀ c ∈ opener entry.1, c ∉ specialChars := by
  intro c hc
  rcases List.mem_append.1 hc with hc | hc
  · rcases List.mem_cons.1 hc with rfl | hc
    · decide
    · intro hspecial
      refine h.1.notMem ?_ hc
      simp only [specialChars, List.mem_cons, List.not_mem_nil, or_false] at hspecial
      rcases hspecial with rfl | rfl | rfl | rfl | rfl <;> decide
  · obtain rfl : c = ':' := by simpa using hc
    decide

/-! ## 2. Lines of whole elements -/

/-- What a line consists of where no markers cross. -/
inductive Item where
  | plain (c : Char)
  | entity (e : Entity)
  | element (entry : Entry) (inner : Text)

/-- The item as it is written. -/
def Item.text : Item → Text
  | plain c => [c]
  | entity e => e.text
  | element entry inner => entry.2.element inner

/-- The items, one behind the other. -/
def lineOf (items : List Item) : Text := items.flatMap Item.text

@[simp] theorem lineOf_nil : lineOf [] = [] := rfl

@[simp] theorem lineOf_cons (item : Item) (items : List Item) :
    lineOf (item :: items) = item.text ++ lineOf items := List.flatMap_cons

@[simp] theorem lineOf_append (items others : List Item) :
    lineOf (items ++ others) = lineOf items ++ lineOf others := List.flatMap_append

/-- The item has no angle outside its tags and, in an element, neither a `}` nor an opener
of a marker that is still to be expanded. -/
def Item.Tidy (later : List Entry) : Item → Prop
  | plain c => c ∉ specialChars
  | entity _ => True
  | element entry inner => entry.IsWords ∧ '<' ∉ inner ∧ '}' ∉ inner ∧
      ∀ other ∈ later, ¬ opener other.1 <:+: inner

/-- An element that keeps clear of some keys keeps clear of fewer. -/
theorem Item.Tidy.mono {entry : Entry} {later : List Entry} {item : Item}
    (h : item.Tidy (entry :: later)) : item.Tidy later := by
  cases item with
  | plain c => exact h
  | entity e => exact h
  | element e inner =>
    obtain ⟨hwords, hangle, hbrace, hopener⟩ := h
    exact ⟨hwords, hangle, hbrace, fun other hother => hopener other (List.mem_cons_of_mem _ hother)⟩

/-- A brace in an element is in its inner text. -/
theorem exists_inner_cut {entry : Entry} (hwords : entry.IsWords) {c : Char}
    (hc : c = '{' ∨ c = '}') {inner before behind : Text}
    (h : entry.2.element inner = before ++ c :: behind) :
    ∃ left right, inner = left ++ c :: right ∧ behind = right ++ entry.2.closingTag := by
  -- the brace is in neither tag, so the cut falls between them
  have hopening : c ∉ entry.2.openingTag := by
    rcases hc with rfl | rfl
    · exact hwords.braceFree.openingTag.1
    · exact hwords.braceFree.openingTag.2
  have hclosing : c ∉ entry.2.closingTag := by
    rcases hc with rfl | rfl
    · exact hwords.braceFree.closingTag.1
    · exact hwords.braceFree.closingTag.2
  rw [MarkerSpec.element, List.append_assoc] at h
  rcases Text.append_eq_cut h with ⟨rest, hrest, -⟩ | ⟨left, -, hinner⟩
  · exact absurd (by simp [hrest]) hopening
  · rcases Text.append_eq_cut hinner with ⟨right, hright, hbehind⟩ | ⟨rest, -, hrest⟩
    · exact ⟨left, right, hright, hbehind⟩
    · exact absurd (by simp [hrest]) hclosing

/-- A brace in a line is an item of its own or stands in the inner text of an element. In the
second case the line goes on behind the inner text with the `<` of the closing tag. -/
theorem exists_element_cut {later : List Entry} {c : Char} (hc : c = '{' ∨ c = '}')
    {items : List Item} (htidy : ∀ item ∈ items, item.Tidy later) {before behind : Text}
    (h : lineOf items = before ++ c :: behind) :
    (∃ front back, items = front ++ .plain c :: back ∧ lineOf front = before ∧
        lineOf back = behind) ∨
      ∃ entry inner left right rest, .element entry inner ∈ items ∧ inner = left ++ c :: right ∧
        behind = right ++ '<' :: rest := by
  induction items generalizing before with
  | nil => cases before <;> cases h
  | cons item items ih =>
    rw [lineOf_cons] at h
    have hitems : ∀ item ∈ items, item.Tidy later := fun i hi => htidy i (List.mem_cons_of_mem _ hi)
    rcases Text.append_eq_cut h with ⟨rest, hitem, rfl⟩ | ⟨rest, rfl, hrest⟩
    · cases item with
      | plain x =>
        obtain ⟨rfl, rfl, rfl⟩ : before = [] ∧ x = c ∧ rest = [] := by
          cases before with
          | nil => simpa [Item.text] using hitem
          | cons b before => simp [Item.text] at hitem
        exact .inl ⟨[], items, rfl, rfl, rfl⟩
      | entity e =>
        have hmem : c ∈ (Piece.entity e).text := by simp [show (Piece.entity e).text = _ from hitem]
        -- no entity has a brace in it
        have hwhole : (Piece.entity e).Whole := trivial
        have hplain := Piece.eq_plain_of_mem hwhole hc hmem
        cases hplain
      | element entry inner =>
        obtain ⟨hwords, -⟩ := htidy _ List.mem_cons_self
        obtain ⟨left, right, hinner, hbehind⟩ := exists_inner_cut hwords hc hitem
        exact .inr ⟨entry, inner, left, right, '/' :: entry.2.tag ++ '>' :: lineOf items,
          List.mem_cons_self, hinner, by simp [hbehind, MarkerSpec.closingTag]⟩
    · rcases ih hitems hrest with ⟨front, back, rfl, hfront, hback⟩ | hinside
      · exact .inl ⟨item :: front, back, rfl, by rw [lineOf_cons, hfront], hback⟩
      · obtain ⟨entry, inner, left, right, more, hmem, hinner⟩ := hinside
        exact .inr ⟨entry, inner, left, right, more, List.mem_cons_of_mem _ hmem, hinner⟩

/-! ## 3. Passes that keep elements whole -/

/-- No content of a marker of `entry` in the text has an opener of a later marker. -/
def Clear (entry : Entry) (later : List Entry) (t : Text) : Prop :=
  ∀ before content behind, t = before ++ opener entry.1 ++ content ++ '}' :: behind →
    '}' ∉ content → ∀ other ∈ later, ¬ opener other.1 <:+: content

/-- Before the pass of each marker, the contents of its occurrences have no opener of a
marker configured later. -/
def Separate : List Entry → Text → Prop
  | [], _ => True
  | entry :: later, t => Clear entry later t ∧ Separate later (expandKey entry.1 entry.2 t)

/-- The contents can be found by looking for the opener behind every prefix of the text, so it can
be checked whether the markers of a given text are clear of later ones. -/
theorem clear_iff {entry : Entry} {later : List Entry} {t : Text} :
    Clear entry later t ↔
      ∀ rest ∈ t.tails, ∀ body ∈ (opener entry.1).isPrefixOf? rest,
        ∀ cut ∈ Text.splitOnce? '}' body, ∀ other ∈ later, ¬ opener other.1 <:+: cut.1 := by
  constructor
  · intro h rest hrest body hbody cut hcut
    obtain ⟨before, rfl⟩ := (List.mem_tails _ _).1 hrest
    obtain rfl := Text.isPrefixOf?_eq_some_iff.1 hbody
    obtain ⟨hclosed, rfl⟩ := Text.splitOnce?_eq_some_iff.1 hcut
    exact h before cut.1 cut.2 (by simp) hclosed
  · -- a closed marker is found at the tail it begins, and cut at its first closing brace
    rintro h before content behind rfl hclosed
    have hrest : opener entry.1 ++ content ++ '}' :: behind ∈
        (before ++ opener entry.1 ++ content ++ '}' :: behind).tails :=
      (List.mem_tails _ _).2 ⟨before, by simp⟩
    have hbody : content ++ '}' :: behind ∈
        (opener entry.1).isPrefixOf? (opener entry.1 ++ content ++ '}' :: behind) :=
      Text.isPrefixOf?_eq_some_iff.2 (List.append_assoc _ _ _)
    have hcut : (content, behind) ∈ Text.splitOnce? '}' (content ++ '}' :: behind) :=
      Text.splitOnce?_eq_some_iff.2 ⟨hclosed, rfl⟩
    exact h _ hrest _ hbody _ hcut

instance (entry : Entry) (later : List Entry) (t : Text) : Decidable (Clear entry later t) :=
  decidable_of_iff _ clear_iff.symm

instance decidableSeparate : (entries : List Entry) → (t : Text) → Decidable (Separate entries t)
  | [], _ => isTrue trivial
  | entry :: later, t =>
    have := decidableSeparate later (expandKey entry.1 entry.2 t)
    inferInstanceAs (Decidable (Clear entry later t ∧ Separate later (expandKey entry.1 entry.2 t)))

theorem Clear.suffix {entry : Entry} {later : List Entry} (front : Text) {t : Text}
    (h : Clear entry later (front ++ t)) : Clear entry later t := by
  intro before content behind ht
  exact h (front ++ before) content behind (by simp [ht])

/-- An opener of a marker that is still to be expanded stands outside all elements. -/
theorem exists_opener_cut {entry : Entry} {later : List Entry} (hwords : entry.IsWords)
    {items : List Item} (htidy : ∀ item ∈ items, item.Tidy (entry :: later)) {before behind : Text}
    (h : lineOf items = before ++ opener entry.1 ++ behind) :
    ∃ front back, items = front ++ .plain '{' :: back ∧ lineOf front = before ∧
      lineOf back = entry.1 ++ ':' :: behind := by
  rw [List.append_assoc, opener_append] at h
  rcases exists_element_cut (.inl rfl) htidy h with hcut | hinside
  · exact hcut
  · obtain ⟨e, inner, left, right, rest, hmem, rfl, hbehind⟩ := hinside
    obtain ⟨-, -, -, hopener⟩ := htidy _ hmem
    -- the opener has no angle, so it ends before the closing tag of the element
    have hangle : '<' ∉ opener entry.1 := fun hmem => hwords.opener_plain _ hmem (by decide)
    have hprefix : opener entry.1 <+: ('{' :: right) ++ '<' :: rest :=
      ⟨behind, by rw [opener_append, hbehind, List.cons_append]⟩
    have hinner := Text.prefix_of_prefix_stop hangle hprefix
    exact absurd (hinner.isInfix.trans ⟨left, [], by simp⟩) (hopener entry List.mem_cons_self)

/-- A `}` of a line stands outside all elements. -/
theorem exists_closer_cut {later : List Entry} {items : List Item}
    (htidy : ∀ item ∈ items, item.Tidy later) {before behind : Text}
    (h : lineOf items = before ++ '}' :: behind) :
    ∃ front back, items = front ++ .plain '}' :: back ∧ lineOf back = behind := by
  rcases exists_element_cut (.inr rfl) htidy h with hcut | hinside
  · obtain ⟨front, back, hitems, -, hback⟩ := hcut
    exact ⟨front, back, hitems, hback⟩
  · obtain ⟨e, inner, left, right, rest, hmem, rfl, -⟩ := hinside
    obtain ⟨-, -, hbrace, -⟩ := htidy _ hmem
    exact absurd (by simp) hbrace

/-- An element is tidy for the keys behind its own if its content holds none of their
openers. -/
theorem tidy_element {entry : Entry} {later : List Entry} (hwords : entry.IsWords)
    (hlater : ∀ other ∈ later, other.IsWords) {content : Text} (hclosed : '}' ∉ content)
    (hclear : ∀ other ∈ later, ¬ opener other.1 <:+: content) :
    (Item.element entry (Html.escape (Text.trim content))).Tidy later := by
  refine ⟨hwords, langle_notMem_escape _, fun h => ?_, fun other hother h => ?_⟩
  · exact hclosed (Text.mem_of_mem_trim (brace_mem_of_mem_escape (.inr rfl) h))
  · have hplain := (hlater other hother).opener_plain
    exact hclear other hother ((infix_of_infix_escape hplain h).trans (Text.trim_isInfix content))

/-- What a pass puts together: the items before an opener, one item, and what it makes of the
rest. -/
theorem tidy_splice {entry : Entry} {later : List Entry} {front expanded : List Item} {item : Item}
    (hfront : ∀ item ∈ front, item.Tidy (entry :: later)) (hitem : item.Tidy later)
    (hexpanded : ∀ item ∈ expanded, item.Tidy later) :
    ∀ other ∈ front ++ item :: expanded, other.Tidy later := by
  intro other hmem
  rcases List.mem_append.1 hmem with hmem | hmem
  · exact (hfront other hmem).mono
  · rcases List.mem_cons.1 hmem with rfl | hmem
    · exact hitem
    · exact hexpanded other hmem

/-- A pass over tidy items whose markers are clear of the later ones gives tidy items. -/
theorem tidy_expandKey {entry : Entry} {later : List Entry} (hwords : entry.IsWords)
    (hlater : ∀ other ∈ later, other.IsWords) {t : Text} (hclear : Clear entry later t)
    {items : List Item} (htidy : ∀ item ∈ items, item.Tidy (entry :: later))
    (hline : lineOf items = t) :
    ∃ expanded, lineOf expanded = expandKey entry.1 entry.2 t ∧
      ∀ item ∈ expanded, item.Tidy later := by
  -- the cases are those of the pass: no opener, no `}`, an empty content, a marker
  fun_induction expandKey entry.1 entry.2 t generalizing items with
  | case1 => exact ⟨items, hline, fun item h => (htidy item h).mono⟩
  | case2 => exact ⟨items, hline, fun item h => (htidy item h).mono⟩
  | case3 t before body hfound content behind hclosed hempty ih =>
    -- only the `{` is passed over, so the pass goes on behind it
    have ht := Text.breakOn?_eq_some hfound
    obtain ⟨front, back, rfl, hfront, hback⟩ := exists_opener_cut hwords htidy (hline.trans ht)
    have hrest : Clear entry later (entry.1 ++ ':' :: body) :=
      Clear.suffix (before ++ ['{']) (by simpa [ht, opener] using hclear)
    obtain ⟨expanded, hexpanded, htidy'⟩ :=
      ih hrest (fun item h => htidy item (by simp [h])) hback
    have hbrace : (Item.plain '{').Tidy later := (by decide : '{' ∉ specialChars)
    exact ⟨front ++ .plain '{' :: expanded, by simp [hfront, hexpanded, Item.text],
      tidy_splice (fun item h => htidy item (by simp [h])) hbrace htidy'⟩
  | case4 t before body hfound content behind hclosed hcontent ih =>
    have ht := Text.breakOn?_eq_some hfound
    obtain ⟨front, back, rfl, hfront, hback⟩ := exists_opener_cut hwords htidy (hline.trans ht)
    obtain ⟨hbody, rfl⟩ := Text.splitOnce?_eq_some_iff.1 hclosed
    have hbackTidy : ∀ item ∈ back, item.Tidy (entry :: later) := fun item h =>
      htidy item (by simp [h])
    have hend : lineOf back = (entry.1 ++ ':' :: content) ++ '}' :: behind := by simp [hback]
    -- the items of the content become the inner text of one element
    obtain ⟨_, back', rfl, hback'⟩ := exists_closer_cut hbackTidy hend
    have hrest : Clear entry later behind :=
      Clear.suffix (before ++ opener entry.1 ++ content ++ ['}'])
        (by simpa [ht] using hclear)
    obtain ⟨expanded, hexpanded, htidy'⟩ :=
      ih hrest (fun item h => hbackTidy item (by simp [h])) hback'
    have helement := tidy_element hwords hlater hbody
      (hclear before content behind (by simp [ht]) hbody)
    refine ⟨front ++ .element entry (Html.escape (Text.trim content)) :: expanded, ?_,
      tidy_splice (fun item h => htidy item (by simp [h])) helement htidy'⟩
    simp [hfront, hexpanded, Item.text, MarkerSpec.elementOf]

/-- Where markers are separate, all passes together give a line of tidy items. -/
theorem tidy_expandAll {entries : List Entry} (hwords : ∀ entry ∈ entries, entry.IsWords) {t : Text}
    (hseparate : Separate entries t) {items : List Item}
    (htidy : ∀ item ∈ items, item.Tidy entries) (hline : lineOf items = t) :
    ∃ expanded, lineOf expanded = expandAll entries t ∧ ∀ item ∈ expanded, item.Tidy [] := by
  induction entries generalizing t items with
  | nil => exact ⟨items, hline, htidy⟩
  | cons entry later ih =>
    have hlater : ∀ other ∈ later, other.IsWords := fun e he => hwords e (List.mem_cons_of_mem _ he)
    obtain ⟨hclear, hrest⟩ := hseparate
    obtain ⟨expanded, hexpanded, htidy'⟩ :=
      tidy_expandKey (hwords entry List.mem_cons_self) hlater hclear htidy hline
    exact ih hlater hrest htidy' hexpanded

/-- An escaped text is a line of tidy items. -/
theorem exists_tidy_escape (entries : List Entry) (t : Text) :
    ∃ items, lineOf items = Html.escape t ∧ ∀ item ∈ items, item.Tidy entries := by
  induction t with
  | nil => exact ⟨[], rfl, by simp⟩
  | cons c t ih =>
    obtain ⟨items, hline, htidy⟩ := ih
    rcases escapeChar_cases c with ⟨e, he⟩ | ⟨hc, he⟩
    · exact ⟨.entity e :: items, by rw [lineOf_cons, Html.escape_cons, he, hline]; rfl,
        List.forall_mem_cons.2 ⟨trivial, htidy⟩⟩
    · exact ⟨.plain c :: items, by rw [lineOf_cons, Html.escape_cons, he, hline]; rfl,
        List.forall_mem_cons.2 ⟨hc, htidy⟩⟩

/-! ## 4. Their tags -/

/-- The tags of a line of tidy items are balanced. -/
theorem balanced_lineOf {later : List Entry} {items : List Item}
    (htidy : ∀ item ∈ items, item.Tidy later) : Balanced (tagsIn (lineOf items)) := by
  induction items with
  | nil => exact Balanced.nil
  | cons item items ih =>
    have hrest := ih fun i hi => htidy i (List.mem_cons_of_mem _ hi)
    rw [lineOf_cons]
    cases item with
    | plain c =>
      have hangle : '<' ∉ [c] := fun h =>
        htidy _ List.mem_cons_self (by rw [← List.mem_singleton.1 h]; decide)
      rwa [Item.text, tagsIn_append_of_notMem hangle]
    | entity e =>
      have hangle : '<' ∉ e.text := by cases e <;> decide
      rwa [Item.text, tagsIn_append_of_notMem hangle]
    -- the inner text has no angle, so the two tags of the element are next to each other
    | element entry inner =>
      obtain ⟨hwords, hangle, -, -⟩ := htidy _ List.mem_cons_self
      rw [Item.text, MarkerSpec.element, List.append_assoc, List.append_assoc,
        tagsIn_openingTag hwords, tagsIn_append_of_notMem hangle, tagsIn_closingTag hwords]
      exact (Balanced.nil.wrap entry.2.tag).append hrest

/-- **Separate markers nest.** Where no marker's content holds an opener of a marker
configured later, the tags of the expanded line are balanced. -/
theorem balanced_expandAll {entries : List Entry} (hwords : ∀ entry ∈ entries, entry.IsWords)
    {line : Text} (hseparate : Separate entries (Html.escape line)) :
    Balanced (tagsIn (expandAll entries (Html.escape line))) := by
  obtain ⟨items, hline, htidy⟩ := exists_tidy_escape entries line
  obtain ⟨expanded, hexpanded, htidy'⟩ := tidy_expandAll hwords hseparate htidy hline
  rw [← hexpanded]
  exact balanced_lineOf htidy'

end MarkupDesk.Markup
