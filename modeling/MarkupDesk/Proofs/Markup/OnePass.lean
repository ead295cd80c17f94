/-
`Proofs/Markup/OnePass.lean` -- all markers in one pass.

Markers are expanded key by key, each key in a sweep of its own over what the sweeps
before it have written. In a text where no brace opens inside another this is the same as
one pass from left to right that looks every key up (`expandMarkers_eq_onePass`), so the
order of the keys does not matter there.

A flat text is cut at its braces. The characters outside are copied by every sweep
(`expandAll_append`), and so are the elements, which have no brace. Of the sweeps over a
span between two braces at most one finds its key there, and the others copy the span or
the element that it became (`expandAll_span`). What is behind a brace that nothing closes
has no braces, and no sweep changes it (`expandAll_unclosed`).
-/
import MarkupDesk.Proofs.Markup.Piece

set_option autoImplicit false

namespace MarkupDesk.Markup

/-! ## 1. The pass -/

/-- The element that the text between two braces stands for. What is before the first colon must
be a key and what is behind it must not be empty; then the element is the opening tag of the key's
marker, the content trimmed and escaped, and the closing tag. It is written out here, so that the
pass can be read without the sweeps. -/
def elementOf? (entries : Dictionary Text MarkerSpec) (span : Text) : Option Text :=
  match Text.splitOnce? ':' span with
  | none => none
  | some (key, content) =>
    if content.isEmpty then none
    else (Dictionary.get? entries key).map fun spec =>
      spec.openingTag ++ Html.escape (Text.trim content) ++ spec.closingTag

/-- The element that a marker stands for whose opening brace is read, and what follows the
marker. -/
def markerAt? (element? : Text → Option Text) (t : Text) : Option (Text × Text) :=
  match Text.splitOnce? '}' t with
  | none => none
  | some (span, behind) => (element? span).map fun element => (element, behind)

theorem length_of_markerAt? {element? : Text → Option Text} {t element behind : Text}
    (h : markerAt? element? t = some (element, behind)) : behind.length < t.length := by
  unfold markerAt? at h
  split at h
  · cases h
  next span rest hclosed =>
    obtain ⟨_, -, hpair⟩ := Option.map_eq_some_iff.1 h
    obtain ⟨-, rfl⟩ := Prod.mk.inj hpair
    rw [(Text.splitOnce?_eq_some_iff.1 hclosed).2, List.length_append, List.length_cons]
    omega

/-- One pass from left to right: a marker is replaced by its element and the pass goes on
behind it, and every other character is copied. -/
def onePass (element? : Text → Option Text) : Text → Text
  | [] => []
  | c :: rest =>
    match _h : if c = '{' then markerAt? element? rest else none with
    | some (element, behind) => element ++ onePass element? behind
    | none => c :: onePass element? rest
termination_by t => t.length
decreasing_by
  · split at _h
    · have hlength := length_of_markerAt? _h
      rw [List.length_cons]
      omega
    · cases _h
  · simp

section

variable {element? : Text → Option Text} {t span behind : Text}

@[simp] theorem onePass_nil : onePass element? [] = [] := by rw [onePass]

/-- A character that is no brace is copied. -/
theorem onePass_cons {c : Char} (h : c ≠ '{') :
    onePass element? (c :: t) = c :: onePass element? t := by
  rw [onePass]
  split
  next found => rw [if_neg h] at found; cases found
  · rfl

/-- What has no opening brace is copied. -/
theorem onePass_append {w : Text} (h : '{' ∉ w) :
    onePass element? (w ++ t) = w ++ onePass element? t := by
  induction w with
  | nil => rfl
  | cons c w ih =>
    obtain ⟨hc, hw⟩ := not_or.1 (mt List.mem_cons.2 h)
    rw [List.cons_append, onePass_cons (Ne.symm hc), ih hw, List.cons_append]

/-- At a brace a marker is replaced, if one begins there, or the brace is copied. -/
theorem onePass_brace (t : Text) :
    onePass element? ('{' :: t) = match markerAt? element? t with
      | some (element, behind) => element ++ onePass element? behind
      | none => '{' :: onePass element? t := by
  rw [onePass]
  split
  next found => rw [if_pos rfl] at found; rw [found]
  next found => rw [if_pos rfl] at found; rw [found]

/-- The span between two braces is replaced if it stands for an element. -/
theorem onePass_span (h : BraceFree span) :
    onePass element? ('{' :: span ++ '}' :: behind) =
      (element? span).getD ('{' :: span ++ ['}']) ++ onePass element? behind := by
  have hclosed : Text.splitOnce? '}' (span ++ '}' :: behind) = some (span, behind) :=
    Text.splitOnce?_eq_some_iff.2 ⟨h.2, rfl⟩
  rw [List.cons_append, onePass_brace]
  cases hspan : element? span with
  | some element =>
    have hmarker : markerAt? element? (span ++ '}' :: behind) = some (element, behind) := by
      rw [markerAt?, hclosed]
      simp only [hspan, Option.map_some]
    rw [hmarker, Option.getD_some]
  | none =>
    -- the span is no marker: it is copied like any other text
    have hmarker : markerAt? element? (span ++ '}' :: behind) = none := by
      rw [markerAt?, hclosed]
      simp only [hspan, Option.map_none]
    have hbrace : '{' ∉ span ++ ['}'] := by simp [h.1]
    have hrest : span ++ '}' :: behind = (span ++ ['}']) ++ behind := by simp
    rw [hmarker, hrest, onePass_append hbrace, Option.getD_none, List.cons_append, List.cons_append]

/-- A brace that nothing closes is copied with all that is behind it. -/
theorem onePass_unclosed (h : BraceFree t) : onePass element? ('{' :: t) = '{' :: t := by
  have hself : onePass element? (t ++ []) = t ++ onePass element? [] := onePass_append h.1
  rw [List.append_nil, onePass_nil, List.append_nil] at hself
  have hmarker : markerAt? element? t = none := by
    rw [markerAt?, Text.splitOnce?_eq_none_iff.2 h.2]
  rw [onePass_brace, hmarker, hself]

end

/-! ## 2. One sweep over a flat text -/

section

variable {key span t behind : Text} {spec : MarkerSpec}

/-- What has no opening brace is copied by a sweep. -/
theorem expandKey_append {w : Text} (h : '{' ∉ w) :
    expandKey key spec (w ++ t) = w ++ expandKey key spec t := by
  induction w with
  | nil => rfl
  | cons c w ih =>
    obtain ⟨hc, hw⟩ := not_or.1 (mt List.mem_cons.2 h)
    have hopener : ¬ opener key <+: c :: (w ++ t) := fun hp => hc (List.cons_prefix_cons.1 hp).1
    rw [List.cons_append, expandKey_cons hopener, ih hw, List.cons_append]

theorem expandKey_of_notMem (h : '{' ∉ t) : expandKey key spec t = t := by
  have hself : expandKey key spec (t ++ []) = t ++ expandKey key spec [] := expandKey_append h
  rwa [List.append_nil, expandKey_nil, List.append_nil] at hself

/-- A span that begins with the key and a colon and has more than that is replaced. -/
theorem expandKey_span_self {content : Text} (hne : content ≠ []) (h : '}' ∉ content) :
    expandKey key spec ('{' :: (key ++ ':' :: content) ++ '}' :: behind) =
      spec.elementOf content ++ expandKey key spec behind := by
  have hopener : '{' :: (key ++ ':' :: content) ++ '}' :: behind =
      opener key ++ (content ++ '}' :: behind) := by simp [opener]
  rw [hopener, expandKey_marker hne h]

/-- Every other span is copied. -/
theorem expandKey_span_of_ne (hkey : '}' ∉ key) (hspan : BraceFree span)
    (hne : ∀ content, content ≠ [] → span ≠ key ++ ':' :: content) :
    expandKey key spec ('{' :: span ++ '}' :: behind) =
      '{' :: span ++ '}' :: expandKey key spec behind := by
  have hcopy : expandKey key spec (span ++ '}' :: behind) =
      span ++ '}' :: expandKey key spec behind := by
    have hbrace : '{' ∉ span ++ ['}'] := by simp [hspan.1]
    have happend : expandKey key spec ((span ++ ['}']) ++ behind) =
        (span ++ ['}']) ++ expandKey key spec behind := expandKey_append hbrace
    simpa using happend
  by_cases hopener : opener key <+: '{' :: (span ++ '}' :: behind)
  · -- the key and the colon are the whole span, and the sweep goes on behind its brace
    have hbrace : '}' ∉ opener key := by simp [opener, hkey]
    rw [← List.cons_append] at hopener
    obtain ⟨content, hcontent⟩ := Text.prefix_of_prefix_stop hbrace hopener
    rw [opener_append] at hcontent
    obtain rfl : content = [] := by
      by_contra hcne
      exact hne content hcne (List.cons.inj hcontent).2.symm
    obtain rfl : span = key ++ [':'] := (List.cons.inj hcontent).2.symm
    -- an empty content is no marker, so the sweep copies the brace and looks on from there
    have hempty : '{' :: (key ++ [':']) ++ '}' :: behind = opener key ++ '}' :: behind := by
      simp [opener]
    rw [hempty, expandKey_empty]
    rw [List.append_assoc, List.singleton_append] at hcopy
    rw [hcopy, List.cons_append]
  · rw [List.cons_append, expandKey_cons hopener, hcopy, List.cons_append]

/-- A sweep leaves a brace that nothing closes: where its key stands behind the brace no
marker ends, and nothing else is replaced. -/
theorem expandKey_unclosed_of_braceFree (h : BraceFree t) :
    expandKey key spec ('{' :: t) = '{' :: t := by
  by_cases hopener : opener key <+: '{' :: t
  · -- the key may stand here, but nothing closes it
    obtain ⟨body, hbody⟩ := hopener
    have hclosed : '}' ∉ body := fun hmem => by
      have hall : '}' ∈ '{' :: t := hbody ▸ List.mem_append_right _ hmem
      rcases List.mem_cons.1 hall with heq | hmem
      · exact absurd heq (by decide)
      · exact h.2 hmem
    rw [← hbody, expandKey_unclosed hclosed]
  · rw [expandKey_cons hopener, expandKey_of_notMem h.1]

end

/-! ## 3. All sweeps over a flat text -/

section

variable {entries : Dictionary Text MarkerSpec} {entry : Entry} {span content t behind : Text}

/-- The key that is swept first gets the element that its sweep writes. -/
theorem elementOf?_cons_self (hkey : ':' ∉ entry.1) (hne : content ≠ []) :
    elementOf? (entry :: entries) (entry.1 ++ ':' :: content) = some (entry.2.elementOf content) := by
  have hcolon : Text.splitOnce? ':' (entry.1 ++ ':' :: content) = some (entry.1, content) :=
    Text.splitOnce?_eq_some_iff.2 ⟨hkey, rfl⟩
  have hcontent : ¬ content.isEmpty = true := by simpa using hne
  rw [elementOf?, hcolon]
  simp only
  rw [if_neg hcontent, Dictionary.get?_cons, if_pos rfl, Option.map_some, MarkerSpec.elementOf,
    MarkerSpec.element]

/-- A span that is not of the first key is looked up among the others. -/
theorem elementOf?_cons_of_ne (hne : ∀ content, content ≠ [] → span ≠ entry.1 ++ ':' :: content) :
    elementOf? (entry :: entries) span = elementOf? entries span := by
  unfold elementOf?
  split
  · rfl
  next key content hcolon =>
    by_cases hempty : content.isEmpty
    · rw [if_pos hempty, if_pos hempty]
    · have hkey : entry.1 ≠ key := by
        rintro rfl
        exact hne content (by simpa using hempty) (Text.splitOnce?_eq_some_iff.1 hcolon).2
      rw [if_neg hempty, if_neg hempty, Dictionary.get?_cons, if_neg hkey]

/-- What has no opening brace is copied by all sweeps. -/
theorem expandAll_copy {w : Text} (h : '{' ∉ w) :
    expandAll entries (w ++ t) = w ++ expandAll entries t := by
  induction entries generalizing t with
  | nil => rfl
  | cons entry entries ih => rw [expandAll_cons, expandKey_append h, ih, expandAll_cons]

theorem expandAll_empty : expandAll entries [] = [] := by
  induction entries with
  | nil => rfl
  | cons entry entries ih => rw [expandAll_cons, expandKey_nil, ih]

/-- An element has no brace if its content and its tags have none. -/
theorem notMem_elementOf {spec : MarkerSpec} (hspec : spec.BraceFree) (h : '{' ∉ content) :
    '{' ∉ spec.elementOf content := by
  have hinner : '{' ∉ Html.escape (Text.trim content) := fun hmem =>
    h (Text.mem_of_mem_trim (brace_mem_of_mem_escape (.inl rfl) hmem))
  have hopening := hspec.openingTag.1
  have hclosing := hspec.closingTag.1
  simp [MarkerSpec.elementOf, MarkerSpec.element, hopening, hinner, hclosing]

/-- **The sweeps over a span.** One of them finds its key there, or none does; the others
copy what they find. -/
theorem expandAll_span (hkeys : ∀ entry ∈ entries, '}' ∉ entry.1 ∧ ':' ∉ entry.1)
    (hfree : ∀ entry ∈ entries, entry.2.BraceFree) (hspan : BraceFree span) :
    expandAll entries ('{' :: span ++ '}' :: behind) =
      (elementOf? entries span).getD ('{' :: span ++ ['}']) ++ expandAll entries behind := by
  -- the first sweep either replaces the span, and the others copy the element, or copies it
  induction entries generalizing behind with
  | nil =>
    have hnone : elementOf? [] span = none := by
      unfold elementOf?
      split <;> simp
    rw [hnone, Option.getD_none, expandAll_nil, expandAll_nil, List.append_assoc,
      List.singleton_append]
  | cons entry entries ih =>
    obtain ⟨⟨hclose, hcolon⟩, hkeys⟩ := List.forall_mem_cons.1 hkeys
    obtain ⟨hspec, hfree⟩ := List.forall_mem_cons.1 hfree
    by_cases hself : ∃ content, content ≠ [] ∧ span = entry.1 ++ ':' :: content
    · obtain ⟨content, hne, rfl⟩ := hself
      have hcontent : BraceFree content := by
        obtain ⟨hopen, hclosed⟩ := hspan
        constructor <;> simp_all
      rw [expandAll_cons, expandKey_span_self hne hcontent.2, elementOf?_cons_self hcolon hne,
        Option.getD_some, expandAll_copy (notMem_elementOf hspec hcontent.1), expandAll_cons]
    · have hother : ∀ content, content ≠ [] → span ≠ entry.1 ++ ':' :: content :=
        fun content hne heq => hself ⟨content, hne, heq⟩
      rw [expandAll_cons, expandKey_span_of_ne hclose hspan hother, ih hkeys hfree,
        elementOf?_cons_of_ne hother, expandAll_cons]

/-- All sweeps leave a brace that nothing closes. -/
theorem expandAll_unclosed (h : BraceFree t) : expandAll entries ('{' :: t) = '{' :: t := by
  induction entries with
  | nil => rfl
  | cons entry entries ih => rw [expandAll_cons, expandKey_unclosed_of_braceFree h, ih]

end

/-! ## 4. Flat texts -/

/-- Between two opening braces there is a closing one. -/
def FlatBraces (t : Text) : Prop :=
  ∀ before between behind, t = before ++ '{' :: between ++ '{' :: behind → '}' ∈ between

theorem FlatBraces.suffix (front : Text) {t : Text} (h : FlatBraces (front ++ t)) : FlatBraces t := by
  intro before between behind ht
  exact h (front ++ before) between behind (by simp [ht])

/-- Up to the next closing brace no other brace opens. -/
theorem FlatBraces.notMem {span behind : Text} (h : FlatBraces ('{' :: (span ++ behind)))
    (hspan : '}' ∉ span) : '{' ∉ span := by
  intro hmem
  obtain ⟨between, rest, rfl⟩ := List.append_of_mem hmem
  have hclosed : '}' ∈ between := h [] between (rest ++ behind) (by simp)
  exact hspan (List.mem_append_left _ hclosed)

/-- A character that is no opening brace is neither here nor there. -/
theorem flatBraces_cons {c : Char} (hc : c ≠ '{') (t : Text) : FlatBraces (c :: t) ↔ FlatBraces t := by
  refine ⟨fun h => FlatBraces.suffix [c] h, fun h before between behind ht => ?_⟩
  cases before with
  | nil => exact absurd (List.cons.inj ht).1 hc
  | cons b before => exact h before between behind (List.cons.inj ht).2

/-- Behind an opening brace there is nothing to ask for once a closing brace has come. -/
theorem flatBraces_closed (t : Text) : FlatBraces ('{' :: '}' :: t) ↔ FlatBraces t := by
  refine ⟨fun h => FlatBraces.suffix ['{', '}'] h, fun h before between behind ht => ?_⟩
  cases before with
  | nil =>
    cases between with
    | nil => simp at ht
    | cons x between =>
      obtain ⟨rfl, -⟩ : '}' = x ∧ t = between ++ '{' :: behind := by simpa using ht
      exact List.mem_cons_self
  | cons b before =>
    -- both braces stand in the half before the next opening one
    have hplain : '}' ≠ '{' := by decide
    refine (flatBraces_cons hplain t).2 h before between behind ?_
    exact (List.cons.inj ht).2

/-- A character behind an open brace that neither opens nor closes changes nothing, as the
brace stays open. -/
theorem flatBraces_inside {c : Char} (hopen : c ≠ '{') (hclose : c ≠ '}') (t : Text) :
    FlatBraces ('{' :: c :: t) ↔ FlatBraces ('{' :: t) := by
  constructor
  · intro h before between behind ht
    cases before with
    | nil =>
      -- the pair begins at the brace in front, and the character is not what closes it
      have hmem : '}' ∈ c :: between := h [] (c :: between) behind (by simp_all)
      exact (List.mem_cons.1 hmem).resolve_left (Ne.symm hclose)
    | cons b before =>
      refine FlatBraces.suffix ['{', c] h before between behind ?_
      exact (List.cons.inj ht).2
  · intro h before between behind ht
    cases before with
    | nil =>
      cases between with
      | nil => simp_all
      | cons x between =>
        have hmem : '}' ∈ between := h [] between behind (by simp_all)
        exact List.mem_cons_of_mem _ hmem
    | cons b before =>
      refine (flatBraces_cons hopen t).2 (FlatBraces.suffix ['{'] h) before between behind ?_
      exact (List.cons.inj ht).2

/-- Is the text flat? `opened` tells whether a brace is open before it. -/
def isFlat : Bool → Text → Bool
  | _, [] => true
  | opened, c :: t =>
    if c = '{' then !opened && isFlat true t
    else if c = '}' then isFlat false t
    else isFlat opened t

/-- **The check reads a text once** and remembers whether a brace is open. The induction
carries both answers at once, since a brace turns the one question into the other. -/
theorem isFlat_iff (t : Text) :
    (isFlat false t ↔ FlatBraces t) ∧ (isFlat true t ↔ FlatBraces ('{' :: t)) := by
  induction t with
  | nil =>
    have hnil : FlatBraces [] := fun before between behind h => by simp at h
    have hopen : FlatBraces ['{'] := fun before between behind h => by
      cases before <;> simp at h
    exact ⟨by simp [isFlat, hnil], by simp [isFlat, hopen]⟩
  | cons c t ih =>
    obtain ⟨hclosed, hopened⟩ := ih
    by_cases hopen : c = '{'
    · subst hopen
      have hnot : ¬ FlatBraces ('{' :: '{' :: t) := fun h => by simpa using h [] [] t rfl
      exact ⟨by simpa [isFlat] using hopened, by simpa [isFlat] using hnot⟩
    -- a closing brace closes the open one, or is an ordinary character
    · by_cases hclose : c = '}'
      · subst hclose
        refine ⟨?_, ?_⟩
        · rw [flatBraces_cons (by decide), ← hclosed]
          simp [isFlat]
        · rw [flatBraces_closed, ← hclosed]
          simp [isFlat]
      · refine ⟨?_, ?_⟩
        · rw [flatBraces_cons hopen, ← hclosed]
          simp [isFlat, hopen, hclose]
        · rw [flatBraces_inside hopen hclose, ← hopened]
          simp [isFlat, hopen, hclose]

instance (t : Text) : Decidable (FlatBraces t) := decidable_of_iff _ (isFlat_iff t).1

/-- The shapes of a flat text: spans between braces, other characters, and at the end what
a last brace opens and none closes. -/
inductive Flat : Text → Prop
  | nil : Flat []
  | plain {c : Char} {t : Text} (hc : c ≠ '{') (rest : Flat t) : Flat (c :: t)
  | span {span behind : Text} (h : BraceFree span) (rest : Flat behind) :
      Flat ('{' :: span ++ '}' :: behind)
  | unclosed {t : Text} (h : BraceFree t) : Flat ('{' :: t)

/-- A flat text is made up of characters, spans and perhaps a last brace that nothing closes.
The induction is on the length, because a span is taken as a whole. -/
theorem FlatBraces.flat {t : Text} (h : FlatBraces t) : Flat t := by
  -- behind a span the text is shorter by more than a character
  induction hn : t.length using Nat.strong_induction_on generalizing t with
  | _ n ih =>
    cases t with
    | nil => exact .nil
    | cons c t =>
      by_cases hc : c = '{'
      · subst hc
        by_cases hclosed : '}' ∈ t
        · obtain ⟨span, behind, rfl, hspan⟩ := List.eq_append_cons_of_mem hclosed
          have hlength : behind.length < n := by
            rw [← hn, List.length_cons, List.length_append, List.length_cons]
            omega
          have hbehind : FlatBraces behind :=
            FlatBraces.suffix ('{' :: span ++ ['}']) (by simpa using h)
          exact .span ⟨h.notMem hspan, hspan⟩ (ih _ hlength hbehind rfl)
        · have hopen : '{' ∉ t := by
            rw [← List.append_nil t] at h
            exact h.notMem hclosed
          exact .unclosed ⟨hopen, hclosed⟩
      · have hlength : t.length < n := by
          rw [← hn, List.length_cons]
          omega
        exact .plain hc (ih _ hlength (FlatBraces.suffix [c] h) rfl)

/-- The sweeps over a flat text do what one pass does. -/
theorem expandAll_eq_onePass {entries : Dictionary Text MarkerSpec}
    (hkeys : ∀ entry ∈ entries, '}' ∉ entry.1 ∧ ':' ∉ entry.1)
    (hfree : ∀ entry ∈ entries, entry.2.BraceFree) {t : Text} (h : Flat t) :
    expandAll entries t = onePass (elementOf? entries) t := by
  induction h with
  | nil => rw [onePass_nil, expandAll_empty]
  | @plain c t hc _ ih =>
    have hcopy : expandAll entries ([c] ++ t) = [c] ++ expandAll entries t :=
      expandAll_copy (by simpa using Ne.symm hc)
    rw [List.singleton_append, List.singleton_append] at hcopy
    rw [hcopy, onePass_cons hc, ih]
  | span h _ ih => rw [expandAll_span hkeys hfree h, onePass_span h, ih]
  | unclosed h => rw [expandAll_unclosed h, onePass_unclosed h]

/-! ## 5. The order of the keys -/

/-- Where every key stands once, a look-up does not depend on the order. -/
theorem elementOf?_perm {entries entries' : Dictionary Text MarkerSpec}
    (hperm : entries'.Perm entries) (hdistinct : (Dictionary.keys entries).Nodup) :
    elementOf? entries' = elementOf? entries := by
  have hlookup : Dictionary.get? entries' = Dictionary.get? entries :=
    funext fun key => Dictionary.get?_perm hperm hdistinct key
  funext span
  rw [elementOf?, elementOf?, hlookup]

/-- **One pass for all keys.** Let no key have a closing brace or a colon and no tag or
class a brace. On a text where no brace opens inside another, the markers expanded key by
key, in any order of the keys, are the markers expanded in one pass. -/
theorem expandMarkers_eq_onePass {map map' : MarkerMap} (hperm : map'.entries.Perm map.entries)
    (hkeys : ∀ entry ∈ map.entries, '}' ∉ entry.1 ∧ ':' ∉ entry.1)
    (hfree : ∀ entry ∈ map.entries, entry.2.BraceFree) {t : Text} (hflat : FlatBraces t) :
    expandMarkers (some map') t = expandMarkers (some map) t ∧
      expandMarkers (some map) t = onePass (elementOf? map.entries) t := by
  have hpass : expandAll map.entries t = onePass (elementOf? map.entries) t :=
    expandAll_eq_onePass hkeys hfree hflat.flat
  have hpass' : expandAll map'.entries t = onePass (elementOf? map'.entries) t := by
    -- what is asked of the entries does not depend on their order
    refine expandAll_eq_onePass (fun entry hentry => ?_) (fun entry hentry => ?_) hflat.flat
    · exact hkeys entry (hperm.mem_iff.1 hentry)
    · exact hfree entry (hperm.mem_iff.1 hentry)
  have hsame : expandAll map'.entries t = expandAll map.entries t := by
    rw [hpass', hpass, elementOf?_perm hperm map.distinct]
  exact ⟨hsame, hpass⟩

/-- Two markers, given in both orders, on a text with an unknown key, an empty content and
an opening brace that nothing closes. -/
theorem expandMarkers_emphasis_swapped :
    let map := MarkerMap.ofPairs [(['b'], ⟨['b'], none⟩), (['i'], ⟨['e', 'm'], some ['x']⟩)]
    let map' := MarkerMap.ofPairs [(['i'], ⟨['e', 'm'], some ['x']⟩), (['b'], ⟨['b'], none⟩)]
    let t : Text := "{i: a:b }{x:y} {b:} {b:c} \x7bi:"
    map'.entries.Perm map.entries ∧ FlatBraces t ∧
      expandMarkers (some map') t = expandMarkers (some map) t ∧
      expandMarkers (some map) t = onePass (elementOf? map.entries) t ∧
      onePass (elementOf? map.entries) t =
        "<em class=\"x\">a:b</em>{x:y} {b:} <b>c</b> \x7bi:" := by
  intro map map' t
  have hperm : map'.entries.Perm map.entries := by decide
  have hflat : FlatBraces t := by decide +kernel
  obtain ⟨hsame, hpass⟩ := expandMarkers_eq_onePass hperm (by decide) (by decide) hflat
  have houtput : onePass (elementOf? map.entries) t =
      "<em class=\"x\">a:b</em>{x:y} {b:} <b>c</b> \x7bi:" := by
    rw [← hpass]
    decide +kernel
  exact ⟨hperm, hflat, hsame, hpass, houtput⟩

end MarkupDesk.Markup
