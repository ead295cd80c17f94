/-
`Proofs/Markup/Passes.lean` -- what the passes of several keys make of a line.

`Reads` reads a sequence of pieces from left to right and keeps the *run*, the markers
opened since the last closing tag. It allows an opening tag only for a marker configured
behind those of the run, a closing tag only for the marker opened last, and no `}` while
a run is open. The `}` that ends a marker therefore stands outside all runs: what a pass
goes on with begins outside, even where the opener of the marker stood inside a run, and
that run then takes in the new element (`reads_expandKey`). A line that is escaped and
then expanded key by key reads from the empty run to the empty run (`reads_expandAll`).
-/
import MarkupDesk.Proofs.Markup.Piece

set_option autoImplicit false

namespace MarkupDesk.Markup

/-! ## 1. Reading pieces -/

/-- The pieces lead from one run to another, where `entries` are the
configured markers in order. -/
inductive Reads (entries : List Entry) : List Entry → List Piece → List Entry → Prop
  | nil (run : List Entry) : Reads entries run [] run
  | plain {run after : List Entry} {pieces : List Piece} {c : Char} (hc : c ∉ specialChars)
      (hrun : c = '}' → run = []) (rest : Reads entries run pieces after) :
      Reads entries run (.plain c :: pieces) after
  | entity {run after : List Entry} {pieces : List Piece} (e : Entity)
      (rest : Reads entries run pieces after) : Reads entries run (.entity e :: pieces) after
  | opening {run after : List Entry} {pieces : List Piece} {entry : Entry}
      (horder : (run ++ [entry]).Sublist entries)
      (rest : Reads entries (run ++ [entry]) pieces after) :
      Reads entries run (.opening entry :: pieces) after
  | closing {run after : List Entry} {pieces : List Piece} {entry : Entry}
      (horder : (run ++ [entry]).Sublist entries) (rest : Reads entries [] pieces after) :
      Reads entries (run ++ [entry]) (.closing entry :: pieces) after

namespace Reads

variable {entries entries' run between after : List Entry} {pieces others : List Piece}

theorem append (h : Reads entries run pieces between) (h' : Reads entries between others after) :
    Reads entries run (pieces ++ others) after := by
  induction h with
  | nil => exact h'
  | plain hc hrun _ ih => exact .plain hc hrun (ih h')
  | entity e _ ih => exact .entity e (ih h')
  | opening horder _ ih => exact .opening horder (ih h')
  | closing horder _ ih => exact .closing horder (ih h')

/-- Where two parts are read, there is a run between them. -/
theorem split (h : Reads entries run (pieces ++ others) after) :
    ∃ between, Reads entries run pieces between ∧ Reads entries between others after := by
  induction pieces generalizing run with
  | nil => exact ⟨run, .nil run, h⟩
  | cons piece pieces ih =>
    cases h with
    | plain hc hrun rest =>
      obtain ⟨between, hfront, hback⟩ := ih rest
      exact ⟨between, .plain hc hrun hfront, hback⟩
    | entity e rest =>
      obtain ⟨between, hfront, hback⟩ := ih rest
      exact ⟨between, .entity e hfront, hback⟩
    | opening horder rest =>
      obtain ⟨between, hfront, hback⟩ := ih rest
      exact ⟨between, .opening horder hfront, hback⟩
    | closing horder rest =>
      obtain ⟨between, hfront, hback⟩ := ih rest
      exact ⟨between, .closing horder hfront, hback⟩

/-- What is read with some markers is read with more. -/
theorem mono (hsub : entries.Sublist entries') (h : Reads entries run pieces after) :
    Reads entries' run pieces after := by
  induction h with
  | nil run => exact .nil run
  | plain hc hrun _ ih => exact .plain hc hrun ih
  | entity e _ ih => exact .entity e ih
  | opening horder _ ih => exact .opening (horder.trans hsub) ih
  | closing horder _ ih => exact .closing (horder.trans hsub) ih

/-- A run is made of configured markers in the order of their configuration. -/
theorem sublist (h : Reads entries run pieces after) (hrun : run.Sublist entries) :
    after.Sublist entries := by
  induction h with
  | nil => exact hrun
  | plain _ _ _ ih => exact ih hrun
  | entity _ _ ih => exact ih hrun
  | opening horder _ ih => exact ih horder
  | closing _ _ ih => exact ih (List.nil_sublist _)

/-- The pieces that are read are whole: no tag among them has a brace in it. -/
theorem whole (hfree : ∀ entry ∈ entries, entry.2.BraceFree) (h : Reads entries run pieces after) :
    ∀ piece ∈ pieces, piece.Whole := by
  induction h with
  | nil => simp
  | plain _ _ _ ih => simpa [Piece.Whole] using ih
  | entity _ _ ih => simpa [Piece.Whole] using ih
  | opening horder _ ih => simpa [Piece.Whole] using ⟨hfree _ (horder.subset (by simp)), ih⟩
  | closing horder _ ih => simpa [Piece.Whole] using ⟨hfree _ (horder.subset (by simp)), ih⟩

/-- Reading up to a brace and on behind it. A `}` is met outside all runs. -/
theorem cut {c : Char} {before behind : Text} (hfree : ∀ entry ∈ entries, entry.2.BraceFree)
    (hc : c = '{' ∨ c = '}') (htext : textOf pieces = before ++ c :: behind)
    (h : Reads entries run pieces after) :
    ∃ front back between, textOf front = before ∧ textOf back = behind ∧
      Reads entries run front between ∧ Reads entries between back after ∧
      (c = '}' → between = []) := by
  obtain ⟨front, back, rfl, hfront, hback⟩ := exists_cut hc (h.whole hfree) htext
  obtain ⟨between, hreads, hrest⟩ := h.split
  -- a piece with a brace for its text is a character of its own
  cases hrest with
  | plain _ hclosed rest => exact ⟨front, back, between, hfront, hback, hreads, rest, hclosed⟩

end Reads

/-! ## 2. Escaped text -/

/-- An escaped text is read without a change of the run; inside a run it must have no `}`. -/
theorem reads_escape (entries : List Entry) {run : List Entry} {t : Text} (h : '}' ∈ t → run = []) :
    ∃ pieces, textOf pieces = Html.escape t ∧ Reads entries run pieces run := by
  induction t with
  | nil => exact ⟨[], rfl, .nil run⟩
  | cons c t ih =>
    obtain ⟨pieces, htext, hreads⟩ := ih fun hmem => h (List.mem_cons_of_mem _ hmem)
    rcases escapeChar_cases c with ⟨e, he⟩ | ⟨hc, he⟩
    · exact ⟨.entity e :: pieces, by rw [textOf_cons, Html.escape_cons, he, htext]; rfl,
        .entity e hreads⟩
    · exact ⟨.plain c :: pieces, by rw [textOf_cons, Html.escape_cons, he, htext]; rfl,
        .plain hc (fun hbrace => h (by simp [hbrace])) hreads⟩

/-- An element is read at any run that its marker is configured behind, and ends it. -/
theorem reads_element {entries run : List Entry} {entry : Entry} {content : Text}
    (horder : (run ++ [entry]).Sublist entries) (hcontent : '}' ∉ content) :
    ∃ pieces, textOf pieces = entry.2.elementOf content ∧ Reads entries run pieces [] := by
  have hinner : '}' ∈ Text.trim content → run ++ [entry] = [] :=
    fun hmem => absurd (Text.mem_of_mem_trim hmem) hcontent
  obtain ⟨pieces, htext, hreads⟩ := reads_escape entries hinner
  refine ⟨.opening entry :: (pieces ++ [.closing entry]), ?_, ?_⟩
  · simp [Piece.text, htext, MarkerSpec.elementOf, MarkerSpec.element]
  · exact .opening horder (hreads.append (.closing horder (.nil [])))

/-! ## 3. One pass -/

/-- **One pass.** A pass for a marker configured behind all others turns a text that reads
from a run to the empty run into one that does so too. -/
theorem reads_expandKey {entries : List Entry} {entry : Entry}
    (hfree : ∀ e ∈ entries, e.2.BraceFree) {t : Text} {run : List Entry} {pieces : List Piece}
    (htext : textOf pieces = t) (hreads : Reads entries run pieces []) (hrun : run.Sublist entries) :
    ∃ expanded, textOf expanded = expandKey entry.1 entry.2 t ∧
      Reads (entries ++ [entry]) run expanded [] := by
  have hmono : entries.Sublist (entries ++ [entry]) := List.sublist_append_left _ _
  fun_induction expandKey entry.1 entry.2 t generalizing run pieces with
  | case1 => exact ⟨pieces, htext, hreads.mono hmono⟩
  | case2 => exact ⟨pieces, htext, hreads.mono hmono⟩
  -- an empty content: the `{` is passed over and stays a character of the run it stands in
  | case3 t before body hfound content behind hclosed hempty ih =>
    have ht := htext.trans (Text.breakOn?_eq_some hfound)
    rw [List.append_assoc, opener_append] at ht
    obtain ⟨front, back, between, hfront, hback, hbefore, hrest, -⟩ :=
      hreads.cut hfree (.inl rfl) ht
    obtain ⟨expanded, hexpanded, hreads'⟩ := ih hback hrest (hbefore.sublist hrun)
    have hbrace : Reads (entries ++ [entry]) between (.plain '{' :: expanded) [] :=
      .plain (by decide) (by simp) hreads'
    exact ⟨front ++ .plain '{' :: expanded, by simp [hfront, hexpanded, Piece.text],
      (hbefore.mono hmono).append hbrace⟩
  | case4 t before body hfound content behind hclosed hcontent ih =>
    have ht := htext.trans (Text.breakOn?_eq_some hfound)
    rw [List.append_assoc, opener_append] at ht
    obtain ⟨front, back, between, hfront, hback, hbefore, hrest, -⟩ :=
      hreads.cut hfree (.inl rfl) ht
    -- behind the opener the next cut is at the `}`, and there no run is open
    obtain ⟨hbody, rfl⟩ := Text.splitOnce?_eq_some_iff.1 hclosed
    have hend : textOf back = (entry.1 ++ ':' :: content) ++ '}' :: behind := by simp [hback]
    obtain ⟨_, back', outside, -, hback', -, hbehind, houtside⟩ :=
      hrest.cut hfree (.inr rfl) hend
    rw [houtside rfl] at hbehind
    obtain ⟨expanded, hexpanded, hreads'⟩ := ih hback' hbehind (List.nil_sublist _)
    have horder : (between ++ [entry]).Sublist (entries ++ [entry]) :=
      (hbefore.sublist hrun).append (List.Sublist.refl _)
    obtain ⟨element, helement, hreadsElement⟩ := reads_element horder hbody
    exact ⟨front ++ (element ++ expanded), by simp [hfront, helement, hexpanded],
      (hbefore.mono hmono).append (hreadsElement.append hreads')⟩

/-! ## 4. All passes -/

/-- **All passes.** What the passes of the configured markers, in order, make of an escaped
line reads from the empty run to the empty run. -/
theorem reads_expandAll (entries : List Entry) (hfree : ∀ e ∈ entries, e.2.BraceFree) (line : Text) :
    ∃ pieces, textOf pieces = expandAll entries (Html.escape line) ∧ Reads entries [] pieces [] := by
  -- the induction is from the last pass back: each one sees what all before it have made
  induction entries using List.reverseRecOn with
  | nil => exact reads_escape _ fun _ => rfl
  | append_singleton entries entry ih =>
    obtain ⟨pieces, htext, hreads⟩ := ih fun e he => hfree e (List.mem_append_left _ he)
    rw [expandAll_append, expandAll_cons, expandAll_nil]
    exact reads_expandKey (fun e he => hfree e (List.mem_append_left _ he)) htext hreads
      (List.nil_sublist _)

end MarkupDesk.Markup
