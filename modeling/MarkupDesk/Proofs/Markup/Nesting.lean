/-
`Proofs/Markup/Nesting.lean` -- how the tags of a document are nested.

Markers are expanded key by key, and a marker ends at the first `}`. So a marker of a
later key may begin inside the element of an earlier one and end behind it, and then it
takes the closing tag of that element in. The tags of a paragraph are not balanced then
(`crossing_markers_not_balanced`), but they are always a sequence of *runs*: some markers
opened in the order of their configuration, and the last of them closed (`exists_runs`).
A closing tag closes the tag opened last in any case, and the tags are balanced exactly
if every run is a single marker (`compile_tags`).
-/
import MarkupDesk.Markup.Compile
import MarkupDesk.Proofs.Markup.Output
import MarkupDesk.Proofs.Markup.Separate

set_option autoImplicit false

namespace MarkupDesk.Markup

/-! ## 1. Runs -/

/-- The tags of the piece. -/
def Piece.tags : Piece → List Tag
  | plain _ => []
  | entity _ => []
  | opening entry => [.opening entry.2.tag]
  | closing entry => [.closing entry.2.tag]

/-- The opening tags of markers. -/
def openings (entries : List Entry) : List Tag := entries.map fun entry => .opening entry.2.tag

/-- The tags of a run: all its markers opened, and the last one closed. -/
def runTags (run : List Entry) : List Tag :=
  openings run ++ (run.getLast?.map fun entry => Tag.closing entry.2.tag).toList

/-- A run opens all of its elements and closes the last one. -/
theorem runTags_concat (run : List Entry) (entry : Entry) :
    runTags (run ++ [entry]) = openings (run ++ [entry]) ++ [.closing entry.2.tag] := by
  simp [runTags]

/-- The tags in the text of pieces are those of the pieces. -/
theorem tagsIn_textOf {entries run after : List Entry} {pieces : List Piece}
    (hwords : ∀ entry ∈ entries, entry.IsWords) (h : Reads entries run pieces after) (rest : Text) :
    tagsIn (textOf pieces ++ rest) = pieces.flatMap Piece.tags ++ tagsIn rest := by
  induction h with
  | nil => rfl
  | @plain _ _ pieces c hc _ _ ih =>
    have hangle : '<' ∉ [c] := fun h => hc (by rw [← List.mem_singleton.1 h]; decide)
    rw [textOf_cons, List.append_assoc, Piece.text, tagsIn_append_of_notMem hangle, ih]
    rfl
  | entity e _ ih =>
    have hangle : '<' ∉ e.text := by cases e <;> decide
    rw [textOf_cons, List.append_assoc, Piece.text, tagsIn_append_of_notMem hangle, ih]
    rfl
  -- a tag of a marker is made of words, so it ends at its own angle
  | opening horder _ ih =>
    rw [textOf_cons, List.append_assoc, Piece.text,
      tagsIn_openingTag (hwords _ (horder.subset (by simp))), ih]
    rfl
  | closing horder _ ih =>
    rw [textOf_cons, List.append_assoc, Piece.text,
      tagsIn_closingTag (hwords _ (horder.subset (by simp))), ih]
    rfl

/-- **Tags come in runs.** The tags of pieces that read to the empty run, behind those of
the run that they begin with, are the tags of runs. -/
theorem exists_runs {entries run after : List Entry} {pieces : List Piece}
    (h : Reads entries run pieces after) (hafter : after = []) :
    ∃ runs : List (List Entry), (∀ r ∈ runs, r ≠ [] ∧ r.Sublist entries) ∧
      openings run ++ pieces.flatMap Piece.tags = runs.flatMap runTags := by
  induction h with
  | nil => exact ⟨[], by simp, by simp [openings, hafter]⟩
  | plain _ _ _ ih => simpa [Piece.tags] using ih hafter
  | entity _ _ ih => simpa [Piece.tags] using ih hafter
  | opening _ _ ih =>
    obtain ⟨runs, hruns, htags⟩ := ih hafter
    exact ⟨runs, hruns, by simpa [Piece.tags, openings] using htags⟩
  | @closing run _ pieces entry horder _ ih =>
    -- the closing tag ends the run, and the rest begins with no marker open
    obtain ⟨runs, hruns, htags⟩ := ih hafter
    refine ⟨(run ++ [entry]) :: runs, List.forall_mem_cons.2 ⟨⟨by simp, horder⟩, hruns⟩, ?_⟩
    rw [List.flatMap_cons, List.flatMap_cons, ← htags, runTags_concat]
    simp [Piece.tags, openings]

/-! ## 2. Runs and nesting -/

/-- Opening tags are put on what is open, the last one on top. -/
theorem closeTags_openings (names : List Text) (run : List Entry) (tags : List Tag) :
    closeTags names (openings run ++ tags) =
      closeTags ((run.map (·.2.tag)).reverse ++ names) tags := by
  induction run generalizing names with
  | nil => rfl
  | cons entry run ih =>
    rw [openings, List.map_cons, List.cons_append, closeTags, ← openings, ih]
    simp

/-- Behind a run all its markers are open but the last one. -/
theorem closeTags_runTags (names : List Text) {run : List Entry} (h : run ≠ []) :
    closeTags names (runTags run) = some ((run.dropLast.map (·.2.tag)).reverse ++ names) := by
  -- the closing tag meets the tag that was opened last, which is of the same marker
  obtain ⟨front, last, rfl⟩ := (List.eq_nil_or_concat' run).resolve_left h
  rw [runTags_concat, closeTags_openings]
  simp [closeTags]

/-- Behind runs nothing more is open than before exactly if every run is one marker. -/
theorem closeTags_runs (names : List Text) {runs : List (List Entry)} (h : ∀ run ∈ runs, run ≠ []) :
    ∃ open_, closeTags names (runs.flatMap runTags) = some (open_ ++ names) ∧
      (open_ = [] ↔ ∀ run ∈ runs, run.length = 1) := by
  induction runs generalizing names with
  | nil => exact ⟨[], rfl, by simp⟩
  | cons run runs ih =>
    have hrun : run ≠ [] := h run List.mem_cons_self
    obtain ⟨open_, hclose, hiff⟩ :=
      ih ((run.dropLast.map (·.2.tag)).reverse ++ names) fun r hr => h r (List.mem_cons_of_mem _ hr)
    -- what the run leaves open stays open below all that follows
    refine ⟨open_ ++ (run.dropLast.map (·.2.tag)).reverse, ?_, ?_⟩
    · rw [List.flatMap_cons, closeTags_append, closeTags_runTags names hrun, Option.bind_some,
        hclose, List.append_assoc]
    · have hlength : run.dropLast = [] ↔ run.length = 1 := by
        have hpos : 0 < run.length := List.length_pos_iff.2 hrun
        rw [← List.length_eq_zero_iff, List.length_dropLast]
        omega
      rw [List.append_eq_nil_iff, hiff, List.reverse_eq_nil_iff, List.map_eq_nil_iff, hlength,
        List.forall_mem_cons, and_comm]

/-- Runs between the tags of a paragraph are balanced exactly if every run is one marker. -/
theorem balanced_paragraph_iff (name : Text) {runs : List (List Entry)} (h : ∀ run ∈ runs, run ≠ []) :
    Balanced (.opening name :: runs.flatMap runTags ++ [.closing name]) ↔
      ∀ run ∈ runs, run.length = 1 := by
  obtain ⟨open_, hclose, hiff⟩ := closeTags_runs [name] h
  rw [← hiff, Balanced, List.cons_append, closeTags, closeTags_append, hclose, Option.bind_some]
  -- the closing tag of the paragraph may meet a tag that a run has left open
  cases open_ with
  | nil => simp [closeTags]
  | cons last open_ =>
    rw [List.cons_append, closeTags]
    split <;> simp [closeTags]

/-! ## 3. Blocks -/

/-- The tags of a heading. -/
theorem tagsIn_renderHeading (title rest : Text) :
    tagsIn (renderHeading title ++ rest) =
      [.opening ['h', '2'], .closing ['h', '2']] ++ tagsIn rest := by
  have hopen := tagsIn_tag ['h', '2'] (by decide) (by decide)
    (Html.escape title ++ (['<', '/', 'h', '2', '>'] ++ rest))
  have hclose := tagsIn_tag ['/', 'h', '2'] (by decide) (by decide) rest
  simp only [List.cons_append, List.nil_append] at hopen hclose
  simp only [renderHeading, List.append_assoc, List.cons_append, List.nil_append]
  rw [hopen, tagsIn_append_of_notMem (langle_notMem_escape title), hclose]
  rfl

/-- The tags of a paragraph are those of its line. -/
theorem tagsIn_renderParagraph {markers : Option MarkerMap}
    (hwords : ∀ entry ∈ entriesOf markers, entry.IsWords) (body rest : Text) :
    tagsIn (renderParagraph markers body ++ rest) =
      .opening ['p'] :: tagsIn (expandAll (entriesOf markers) (Html.escape (collapseLineFeeds body)))
        ++ .closing ['p'] :: tagsIn rest := by
  obtain ⟨pieces, htext, hreads⟩ := reads_expandAll (entriesOf markers)
    (fun entry h => (hwords entry h).braceFree) (collapseLineFeeds body)
  have hopen := tagsIn_tag ['p'] (by decide) (by decide)
    (textOf pieces ++ (['<', '/', 'p', '>'] ++ rest))
  have hclose := tagsIn_tag ['/', 'p'] (by decide) (by decide) rest
  -- the same reading with nothing behind it gives the tags of the line alone
  have hline := tagsIn_textOf hwords hreads []
  simp only [List.cons_append, List.nil_append, List.append_nil] at hopen hclose hline
  simp only [renderParagraph, expandMarkers_eq, ← htext, List.append_assoc, List.cons_append,
    List.nil_append]
  rw [hopen, tagsIn_textOf hwords hreads, hclose, hline]
  simp [tagsIn, tagOf]

/-- The tags of a block are complete. -/
theorem tagsIn_render {rules : Rules} (hwords : ∀ entry ∈ entriesOf rules.markers, entry.IsWords)
    (block : Block) (rest : Text) :
    tagsIn (block.render rules ++ rest) = tagsIn (block.render rules) ++ tagsIn rest := by
  cases block with
  | heading title =>
    have hself := tagsIn_renderHeading title []
    rw [List.append_nil] at hself
    rw [Block.render, tagsIn_renderHeading, hself]
    rfl
  | paragraph body =>
    have hself := tagsIn_renderParagraph hwords body []
    rw [List.append_nil] at hself
    rw [Block.render, tagsIn_renderParagraph hwords, hself]
    simp [tagsIn]

/-- The tags of a document are those of its blocks. -/
theorem tagsIn_join {rules : Rules} (hwords : ∀ entry ∈ entriesOf rules.markers, entry.IsWords)
    (blocks : List Block) :
    tagsIn (Text.join ['\n'] (blocks.map (Block.render rules))) =
      blocks.flatMap fun block => tagsIn (block.render rules) := by
  induction blocks with
  | nil => rfl
  | cons block blocks ih =>
    rw [List.flatMap_cons, ← ih]
    -- there is a line feed between two blocks, and none behind the last one
    cases blocks with
    | nil => simp [Text.join, List.intercalate, tagsIn]
    | cons next blocks =>
      have hbreak : '<' ∉ ['\n'] := by decide
      rw [List.map_cons, List.map_cons, Text.join, List.intercalate_cons_cons, ← Text.join,
        List.append_assoc, tagsIn_render hwords, tagsIn_append_of_notMem hbreak]

/-! ## 4. Documents -/

/-- A heading is balanced, since its title is escaped. -/
theorem balanced_renderHeading (title : Text) : Balanced (tagsIn (renderHeading title)) := by
  have htags := tagsIn_renderHeading title []
  rw [List.append_nil] at htags
  rw [htags]
  decide

/-- The tags of a paragraph come in runs, and one marker a run makes them balanced. -/
theorem exists_runs_renderParagraph {markers : Option MarkerMap}
    (hwords : ∀ entry ∈ entriesOf markers, entry.IsWords) (body : Text) :
    ∃ runs : List (List Entry),
      (∀ run ∈ runs, run ≠ [] ∧ run.Sublist (entriesOf markers)) ∧
      tagsIn (renderParagraph markers body) =
        .opening ['p'] :: runs.flatMap runTags ++ [.closing ['p']] ∧
      (Balanced (tagsIn (renderParagraph markers body)) ↔ ∀ run ∈ runs, run.length = 1) := by
  obtain ⟨pieces, htext, hreads⟩ := reads_expandAll (entriesOf markers)
    (fun entry h => (hwords entry h).braceFree) (collapseLineFeeds body)
  -- the line reads from the empty run to the empty run, so its tags are whole runs
  obtain ⟨runs, hruns, htags⟩ := exists_runs hreads rfl
  have hline := tagsIn_textOf hwords hreads []
  have hself := tagsIn_renderParagraph hwords body []
  simp only [List.append_nil] at hline hself
  rw [← htext, hline] at hself
  have hparagraph : tagsIn (renderParagraph markers body) =
      .opening ['p'] :: runs.flatMap runTags ++ [.closing ['p']] := by
    rw [hself, ← htags]
    simp [tagsIn, openings]
  exact ⟨runs, hruns, hparagraph,
    hparagraph ▸ balanced_paragraph_iff ['p'] fun run hrun => (hruns run hrun).1⟩

/-- Separate markers leave no tag open. Balanced tags have no place for a run of more than one
marker, so of the runs of such a paragraph there is nothing left to say. -/
theorem balanced_renderParagraph {markers : Option MarkerMap}
    (hwords : ∀ entry ∈ entriesOf markers, entry.IsWords) {body : Text}
    (hseparate : Separate (entriesOf markers) (Html.escape (collapseLineFeeds body))) :
    Balanced (tagsIn (renderParagraph markers body)) := by
  have hself := tagsIn_renderParagraph hwords body []
  rw [List.append_nil] at hself
  rw [hself]
  exact (balanced_expandAll hwords hseparate).wrap ['p']

/-- **How the tags of a document are nested.** Let keys, tags and classes be words. The tags
of a document are those of its blocks, one after the other; those of a heading are balanced.
The tags of a paragraph are, inside its own, a sequence of runs of markers, each in the order
of configuration; so a closing tag closes the tag opened last, and the paragraph is balanced
exactly if every run is one marker. That is so for every paragraph in which no marker's content
holds an opener of a marker configured later, whatever the other paragraphs are like, and if all
paragraphs are like this the document is balanced.

The condition cannot be left out: a marker of a later key that ends behind an earlier one takes
that one's closing tag into its own content, where it is escaped
(`crossing_markers_not_balanced`). -/
theorem compile_tags {rules : Rules} (hwords : ∀ entry ∈ entriesOf rules.markers, entry.IsWords)
    (source : Text) :
    (tagsIn (compile rules source) =
      (blocksOf rules source).flatMap fun block => tagsIn (block.render rules)) ∧
    (∀ title, .heading title ∈ blocksOf rules source → Balanced (tagsIn (renderHeading title))) ∧
    (∀ body, .paragraph body ∈ blocksOf rules source →
      ∃ runs : List (List Entry),
        (∀ run ∈ runs, run ≠ [] ∧ run.Sublist (entriesOf rules.markers)) ∧
        tagsIn (renderParagraph rules.markers body) =
          .opening ['p'] :: runs.flatMap runTags ++ [.closing ['p']] ∧
        (Balanced (tagsIn (renderParagraph rules.markers body)) ↔ ∀ run ∈ runs, run.length = 1)) ∧
    (∀ body, .paragraph body ∈ blocksOf rules source →
      Separate (entriesOf rules.markers) (Html.escape (collapseLineFeeds body)) →
      Balanced (tagsIn (renderParagraph rules.markers body))) ∧
    ((∀ body, .paragraph body ∈ blocksOf rules source →
        Separate (entriesOf rules.markers) (Html.escape (collapseLineFeeds body))) →
      Balanced (tagsIn (compile rules source))) := by
  have htags := tagsIn_join hwords (blocksOf rules source)
  rw [← compile_eq] at htags
  refine ⟨htags, fun title _ => balanced_renderHeading title,
    fun body _ => exists_runs_renderParagraph hwords body,
    fun body _ hseparate => balanced_renderParagraph hwords hseparate, fun hseparate => ?_⟩
  -- blocks do not share tags, so their balance adds up
  rw [htags]
  apply Balanced.flatMap
  intro block hblock
  cases block with
  | heading title => exact balanced_renderHeading title
  | paragraph body => exact balanced_renderParagraph hwords (hseparate body hblock)

/-- A heading, and a paragraph whose markers are apart or expanded from the inside out. They
are separate, so the paragraph and the document are balanced, although one element stands in
another. -/
theorem compile_tags_emphasis :
    let source : Text := "# Title\n\n{b:one} {i:two {b:x} y}"
    let body : Text := "{b:one} {i:two {b:x} y}"
    (∀ entry ∈ entriesOf emphasisRules.markers, entry.IsWords) ∧
    blocksOf emphasisRules source = [.heading "Title", .paragraph body] ∧
    Separate (entriesOf emphasisRules.markers) (Html.escape (collapseLineFeeds body)) ∧
    (∃ runs : List (List Entry),
      tagsIn (renderParagraph emphasisRules.markers body) =
        .opening ['p'] :: runs.flatMap runTags ++ [.closing ['p']]) ∧
    Balanced (tagsIn (renderParagraph emphasisRules.markers body)) ∧
    Balanced (tagsIn (compile emphasisRules source)) := by
  intro source body
  have hwords : ∀ entry ∈ entriesOf emphasisRules.markers, entry.IsWords := by decide +kernel
  have hblocks : blocksOf emphasisRules source = [.heading "Title", .paragraph body] := by
    decide +kernel
  have hseparate : Separate (entriesOf emphasisRules.markers)
      (Html.escape (collapseLineFeeds body)) := by decide +kernel
  have hbody : .paragraph body ∈ blocksOf emphasisRules source := by simp [hblocks]
  obtain ⟨-, -, hparagraph, hapart, hwhole⟩ := compile_tags hwords source
  obtain ⟨runs, -, hruns, -⟩ := hparagraph body hbody
  have hall : ∀ other, .paragraph other ∈ blocksOf emphasisRules source →
      Separate (entriesOf emphasisRules.markers) (Html.escape (collapseLineFeeds other)) := by
    intro other hother
    obtain rfl : other = body := by simpa [hblocks] using hother
    exact hseparate
  exact ⟨hwords, hblocks, hseparate, ⟨runs, hruns⟩, hapart body hbody hseparate, hwhole hall⟩

/-- Where the second marker begins in the content of the first and ends behind it, the
paragraph has an opening tag that is never closed. -/
theorem crossing_markers_not_balanced :
    (∀ entry ∈ entriesOf emphasisRules.markers, entry.IsWords) ∧
      ¬ Balanced (tagsIn (compile emphasisRules "{b:one {i:two} three}")) := by
  constructor
  · decide +kernel
  · decide +kernel

end MarkupDesk.Markup
