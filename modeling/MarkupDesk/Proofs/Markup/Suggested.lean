/-
`Proofs/Markup/Suggested.lean` -- a marker that is alone in its paragraph.

The editor suggests a key as it is configured, and puts it into the source like that. The
compiler looks for a key in a line that is escaped already. So what it finds between the brace
and the colon of `{key:content}` is the escape of the key, and this is looked up among the keys
as they are configured (`compile_marker`). A key that is its own escape is found, and the marker
becomes its element; a key with a character in it that is escaped is not
(`compile_suggested`).
-/
import MarkupDesk.Proofs.Editing.Completion
import MarkupDesk.Proofs.Markup.Locality
import MarkupDesk.Proofs.Markup.OnePass

set_option autoImplicit false

namespace MarkupDesk.Markup

open Html (escape escapeChar)
open Text (AllBlank isBlank trim trimEnd trimStart)

/-! ## 1. Escaping and trimming -/

theorem escapeChar_of_isBlank {c : Char} (h : isBlank c = true) : escapeChar c = [c] := by
  unfold Html.escapeChar
  split
  · exact absurd h (by decide)
  · exact absurd h (by decide)
  · exact absurd h (by decide)
  · exact absurd h (by decide)
  · exact absurd h (by decide)
  · rfl

/-- No entity has white space. -/
theorem isBlank_of_mem_escapeChar {c x : Char} (h : ¬ isBlank c = true) (hx : x ∈ escapeChar c) :
    ¬ isBlank x = true := by
  rcases escapeChar_cases c with ⟨entity, hentity⟩ | ⟨-, hplain⟩
  · have hall : entity.text.all (fun x => !isBlank x) = true := by cases entity <;> decide
    rw [hentity] at hx
    simpa using List.all_eq_true.1 hall x hx
  · rw [hplain, List.mem_singleton] at hx
    rwa [hx]

/-- Only the empty text is escaped to the empty text. -/
theorem escape_eq_nil_iff (t : Text) : escape t = [] ↔ t = [] := by
  cases t with
  | nil => exact Iff.rfl
  | cons c t =>
    have hne : escapeChar c ≠ [] := by
      rcases escapeChar_cases c with ⟨entity, hentity⟩ | ⟨-, hplain⟩
      · rw [hentity]
        cases entity <;> exact List.cons_ne_nil _ _
      · rw [hplain]
        exact List.cons_ne_nil _ _
    rw [Html.escape_cons]
    simp [hne]

/-- Trimming the front of an escaped text is escaping the trimmed one. -/
theorem trimStart_escape (t : Text) : trimStart (escape t) = escape (trimStart t) := by
  induction t with
  | nil => rfl
  | cons c t ih =>
    by_cases hc : isBlank c = true
    · have hleft : trimStart (escape (c :: t)) = trimStart (escape t) := by
        rw [Html.escape_cons, escapeChar_of_isBlank hc]
        exact Text.trimStart_append (.cons hc .nil) _
      have hright : trimStart (c :: t) = trimStart t := Text.trimStart_append (.cons hc .nil) t
      rw [hleft, ih, hright]
    · have hright : trimStart (c :: t) = c :: t := List.dropWhile_cons_of_neg hc
      rw [hright, Html.escape_cons]
      -- the escape of the first character does not begin with white space either
      cases hfirst : escapeChar c with
      | nil =>
        have hnil : escape [c] = [] := by rw [Html.escape_cons, hfirst]; rfl
        exact absurd ((escape_eq_nil_iff [c]).1 hnil) (List.cons_ne_nil _ _)
      | cons x rest =>
        have hx : ¬ isBlank x = true :=
          isBlank_of_mem_escapeChar hc (by rw [hfirst]; exact List.mem_cons_self)
        exact List.dropWhile_cons_of_neg hx

/-- What has no white space keeps its end, whatever is cut off behind it. -/
theorem trimEnd_append_of_solid {w : Text} (h : ∀ c ∈ w, ¬ isBlank c = true) (t : Text) :
    trimEnd (w ++ t) = w ++ trimEnd t := by
  induction w with
  | nil => rfl
  | cons c w ih =>
    obtain ⟨hc, hw⟩ := List.forall_mem_cons.1 h
    rw [List.cons_append, Text.trimEnd_cons, if_neg fun hblank => hc hblank.2, ih hw,
      List.cons_append]

/-- Trimming the end of an escaped text is escaping the trimmed one. -/
theorem trimEnd_escape (t : Text) : trimEnd (escape t) = escape (trimEnd t) := by
  induction t with
  | nil => rfl
  | cons c t ih =>
    by_cases hc : isBlank c = true
    · rw [Html.escape_cons, escapeChar_of_isBlank hc, List.singleton_append, Text.trimEnd_cons,
        Text.trimEnd_cons, ih]
      by_cases hrest : trimEnd t = []
      · rw [if_pos ⟨(escape_eq_nil_iff _).2 hrest, hc⟩, if_pos ⟨hrest, hc⟩, Html.escape_nil]
      · rw [if_neg fun hnil => hrest ((escape_eq_nil_iff _).1 hnil.1), if_neg fun hnil => hrest hnil.1,
          Html.escape_cons, escapeChar_of_isBlank hc, List.singleton_append]
    · rw [Html.escape_cons, trimEnd_append_of_solid (fun x hx => isBlank_of_mem_escapeChar hc hx), ih,
        Text.trimEnd_cons, if_neg fun hblank => hc hblank.2, Html.escape_cons]

/-- **Escaping leaves white space alone**, so it does not matter which is done first. -/
theorem trim_escape (t : Text) : trim (escape t) = escape (trim t) := by
  rw [trim, trimStart_escape, trimEnd_escape, trim]

/-! ## 2. A source of one line -/

/-- A line has no line end to be unified: a CR by itself is not one. -/
theorem unifyLineEndings_of_line {t : Text} (h : '\n' ∉ t) : unifyLineEndings t = t := by
  induction t with
  | nil => rfl
  | cons c t ih =>
    obtain ⟨-, ht⟩ := not_or.1 (mt List.mem_cons.2 h)
    rw [unifyLineEndings_cons, ih ht]
    rintro - rest rfl
    exact ht List.mem_cons_self

/-- A line has no line feeds to be collapsed. -/
theorem collapseLineFeeds_of_line {t : Text} (h : '\n' ∉ t) : collapseLineFeeds t = t := by
  induction t with
  | nil => rfl
  | cons c t ih =>
    obtain ⟨hc, ht⟩ := not_or.1 (mt List.mem_cons.2 h)
    rw [collapseLineFeeds, ih ht]
    · intro rest hfeed
      exact absurd hfeed.symm hc
    · intro hfeed
      exact absurd hfeed.symm hc

/-- A line that is no heading is one paragraph. -/
theorem compile_line (rules : Rules) {t : Text} (hline : '\n' ∉ t) (htrim : trim t = t)
    (hne : t ≠ []) (hmark : headingMark.isPrefixOf? t = none) :
    compile rules t = renderParagraph rules.markers t := by
  have hpieces : pieces t = [t] := by
    rw [pieces, splitAtBlankLines_of_line hline, trimmed, List.map_singleton, htrim]
    simp [hne]
  have hblock : Block.ofPiece rules.headings t = .paragraph t := by
    unfold Block.ofPiece
    rw [hmark]
  rw [compile, unifyLineEndings_of_line hline, htrim, segment_eq, hpieces, List.map_singleton, hblock,
    List.map_singleton, Block.render]
  exact List.intercalate_singleton

/-! ## 3. One marker -/

/-- The key can be written in a marker: nothing in it ends the key, the marker or the line. -/
def IsKey (key : Text) : Prop := BraceFree key ∧ ':' ∉ key ∧ '\n' ∉ key

instance (key : Text) : Decidable (IsKey key) := inferInstanceAs (Decidable (_ ∧ _ ∧ _))

/-- The source of a marker with nothing around it. -/
def markerSource (key content : Text) : Text := '{' :: (key ++ ':' :: content) ++ ['}']

variable {rules : Rules} {map : MarkerMap} {key content : Text}

theorem trimEnd_closer (t : Text) : trimEnd (t ++ ['}']) = t ++ ['}'] := by
  have hcloser : ¬ isBlank '}' = true := by decide
  rw [trimEnd, Text.dropEndWhile, List.reverse_append, List.reverse_singleton, List.singleton_append,
    List.dropWhile_cons_of_neg hcloser, List.reverse_cons, List.reverse_reverse]

/-- A marker stands between two braces, so trimming leaves it. -/
theorem trim_markerSource (key content : Text) :
    trim (markerSource key content) = markerSource key content := by
  have hopener : ¬ isBlank '{' = true := by decide
  rw [markerSource, List.cons_append, Text.trim_cons_of_not_isBlank hopener, trimEnd_closer]

/-- An escaped marker is the marker of the escaped key and content. -/
theorem escape_markerSource (key content : Text) :
    escape (markerSource key content) = markerSource (escape key) (escape content) := by
  have hopener : escapeChar '{' = ['{'] := by decide
  have hcolon : escapeChar ':' = [':'] := by decide
  have hcloser : escape ['}'] = ['}'] := by decide
  rw [markerSource, markerSource, Html.escape_append, Html.escape_cons, Html.escape_append,
    Html.escape_cons, hopener, hcolon, hcloser]
  rfl

theorem braceFree_escape {t : Text} (h : BraceFree t) : BraceFree (escape t) :=
  ⟨fun hmem => h.1 (brace_mem_of_mem_escape (.inl rfl) hmem),
    fun hmem => h.2 (brace_mem_of_mem_escape (.inr rfl) hmem)⟩

theorem colon_notMem_escape {t : Text} (h : ':' ∉ t) : ':' ∉ escape t := fun hmem =>
  h (mem_of_mem_escape (fun e => by cases e <;> decide) hmem).1

/-- **A marker alone in its paragraph.** The escape of its key is looked up; what is found gets
the content, which is escaped once with the line and once more on its own, and what is not found
stays as it is written. -/
theorem compile_marker (hmarkers : rules.markers = some map)
    (hkeys : ∀ entry ∈ map.entries, IsKey entry.1)
    (hfree : ∀ entry ∈ map.entries, entry.2.BraceFree) (hkey : IsKey key)
    (hcontent : BraceFree content) (hline : '\n' ∉ content) (hne : content ≠ []) :
    compile rules (markerSource key content) =
      ['<', 'p', '>'] ++
        (((map.get? (escape key)).map fun spec => spec.element (escape (escape (trim content)))).getD
          (markerSource (escape key) (escape content))) ++ ['<', '/', 'p', '>'] := by
  have hwhole : '\n' ∉ markerSource key content := by
    simp [markerSource, hkey.2.2, hline]
  have hmark : headingMark.isPrefixOf? (markerSource key content) = none := rfl
  have hspan : BraceFree (escape key ++ ':' :: escape content) := by
    have hkey' := braceFree_escape hkey.1
    have hcontent' := braceFree_escape hcontent
    simp [BraceFree, hkey'.1, hkey'.2, hcontent'.1, hcontent'.2]
  -- between the braces stand the escape of the key and the escape of the content
  have hlookup : elementOf? map.entries (escape key ++ ':' :: escape content) =
      (map.get? (escape key)).map fun spec => spec.element (escape (escape (trim content))) := by
    have hcolon : Text.splitOnce? ':' (escape key ++ ':' :: escape content) =
        some (escape key, escape content) :=
      Text.splitOnce?_eq_some_iff.2 ⟨colon_notMem_escape hkey.2.1, rfl⟩
    have hnonempty : ¬ (escape content).isEmpty = true := by
      rw [List.isEmpty_iff, escape_eq_nil_iff]
      exact hne
    rw [elementOf?, hcolon]
    simp only [if_neg hnonempty, trim_escape]
    rfl
  -- the expansions of the other keys do not touch the span
  have hends : ∀ entry ∈ map.entries, '}' ∉ entry.1 ∧ ':' ∉ entry.1 :=
    fun entry hentry => ⟨(hkeys entry hentry).1.2, (hkeys entry hentry).2.1⟩
  have hexpand : expandAll map.entries ('{' :: (escape key ++ ':' :: escape content) ++ '}' :: []) = _ :=
    expandAll_span hends hfree hspan
  rw [expandAll_empty, List.append_nil, hlookup] at hexpand
  rw [compile_line rules hwhole (trim_markerSource key content) (List.cons_ne_nil _ _) hmark,
    renderParagraph, collapseLineFeeds_of_line hwhole, hmarkers, expandMarkers, escape_markerSource,
    markerSource, hexpand]

/-! ## 4. What is suggested -/

/-- A key of the configuration has an element. -/
theorem exists_of_mem_markerKeys (h : key ∈ rules.markerKeys) :
    ∃ map spec, rules.markers = some map ∧ map.get? key = some spec := by
  unfold Rules.markerKeys at h
  cases hmarkers : rules.markers with
  | none =>
    rw [hmarkers] at h
    cases h
  | some map =>
    rw [hmarkers] at h
    obtain ⟨entry, hentry, rfl⟩ := List.mem_map.1 h
    exact ⟨map, entry.2, rfl, Dictionary.get?_eq_some_of_mem map.distinct hentry⟩

/-- **What is suggested is expanded, if it is its own escape.** Let the keys be such as can be
written in a marker and let no tag or class have a brace. Then for every key that is suggested
anywhere and every content that is not blank: a key without a character that is escaped brings its
element around the content, and where the escape of the key is no key itself, the marker stays as
it is written. -/
theorem compile_suggested (hkeys : ∀ key ∈ rules.markerKeys, IsKey key)
    (hfree : ∀ map ∈ rules.markers, ∀ entry ∈ map.entries, entry.2.BraceFree)
    {t : Text} {cursor : Nat} {s : Editing.Suggestion}
    (hs : Editing.suggest? t cursor rules.markerKeys = some s) (hkey : key ∈ s.keys)
    (hcontent : BraceFree content) (hline : '\n' ∉ content) (hblank : ¬ AllBlank content) :
    ∃ map spec, rules.markers = some map ∧ map.get? key = some spec ∧
      (escape key = key → compile rules ('{' :: (key ++ ':' :: content) ++ ['}']) =
        ['<', 'p', '>'] ++ (spec.openingTag ++ escape (escape (trim content)) ++ spec.closingTag) ++
          ['<', '/', 'p', '>']) ∧
      (escape key ∉ rules.markerKeys → compile rules ('{' :: (key ++ ':' :: content) ++ ['}']) =
        ['<', 'p', '>'] ++ ('{' :: (escape key ++ ':' :: escape content) ++ ['}']) ++
          ['<', '/', 'p', '>']) := by
  have hmem : key ∈ rules.markerKeys := Editing.mem_of_suggest? hs hkey
  obtain ⟨map, spec, hmarkers, hspec⟩ := exists_of_mem_markerKeys hmem
  have hentries : rules.markerKeys = map.keys := by
    unfold Rules.markerKeys
    rw [hmarkers]
    rfl
  have hwritable : ∀ entry ∈ map.entries, IsKey entry.1 := by
    intro entry hentry
    apply hkeys
    rw [hentries]
    exact List.mem_map_of_mem hentry
  have hne : content ≠ [] := by
    rintro rfl
    exact hblank .nil
  have hcompile := compile_marker hmarkers hwritable (hfree map hmarkers) (hkeys key hmem) hcontent
    hline hne
  -- it is the escape of the key that is looked up
  refine ⟨map, spec, hmarkers, hspec, fun hplain => ?_, fun hunknown => ?_⟩
  · rw [hplain, hspec] at hcompile
    exact hcompile
  · have hnone : map.get? (escape key) = none := by
      cases hfound : map.get? (escape key) with
      | none => rfl
      | some other =>
        rw [hentries] at hunknown
        exact absurd (List.mem_map_of_mem (Dictionary.mem_of_get?_eq_some hfound)) hunknown
    rw [hnone] at hcompile
    exact hcompile

/-- Behind a brace both keys are suggested, and the first one is put around a content. -/
theorem compile_suggested_bold :
    let rules := ((default : Rules).withMarker "b" ⟨"b", none⟩).withMarker "i" ⟨"em", some "x"⟩
    let t : Text := "two \x7b"
    Editing.suggest? t 5 rules.markerKeys = some ⟨["b", "i"], 4⟩ ∧
      compile rules "\x7bi: a < b \x7d" = "<p><em class=\"x\">a &amp;lt; b</em></p>" := by
  intro rules t
  have hs : Editing.suggest? t 5 rules.markerKeys = some ⟨["b", "i"], 4⟩ := by decide +kernel
  have hkeys : ∀ key ∈ rules.markerKeys, IsKey key := by decide +kernel
  have hfree : ∀ map ∈ rules.markers, ∀ entry ∈ map.entries, entry.2.BraceFree := by decide +kernel
  have hkey : ("i" : Text) ∈ (⟨["b", "i"], 4⟩ : Editing.Suggestion).keys := by decide +kernel
  have hcontent : BraceFree (" a < b " : Text) := by decide +kernel
  obtain ⟨map, spec, hmarkers, hspec, hplain, -⟩ :=
    compile_suggested hkeys hfree hs hkey hcontent (by decide +kernel) (by decide +kernel)
  obtain rfl := Option.some.inj hmarkers
  obtain rfl := Option.some.inj hspec
  refine ⟨hs, (hplain (by decide +kernel)).trans ?_⟩
  decide +kernel

/-- A key with a character that is escaped is suggested, too, but its marker is not expanded. -/
theorem suggested_not_expanded :
    let rules := (default : Rules).withMarker "a&b" ⟨"b", none⟩
    (∀ key ∈ rules.markerKeys, IsKey key) ∧
      (∀ map ∈ rules.markers, ∀ entry ∈ map.entries, entry.2.BraceFree) ∧
      Editing.suggest? ['{'] 1 rules.markerKeys = some ⟨["a&b"], 0⟩ ∧
      compile rules "\x7ba&b:x\x7d" ≠ "<p><b>x</b></p>" ∧
      compile rules "\x7ba&b:x\x7d" = "<p>\x7ba&amp;b:x\x7d</p>" := by
  decide +kernel

end MarkupDesk.Markup
