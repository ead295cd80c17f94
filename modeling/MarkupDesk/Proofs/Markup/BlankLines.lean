/-
`Proofs/Markup/BlankLines.lean` -- cutting a text at its blank lines.

The cut of a text is not the cut of its parts put together: a separator is taken as long as
possible, so a blank at the seam may belong to a separator of the whole and to a piece of a
part. What survives is the trimmed, non-empty pieces. White space in front of a text changes
only a piece that is trimmed (`pieces_cons_of_isBlank`), and a text behind which the last piece
can only grow by white space (`Detached`) contributes its pieces after those of the text in
front of it (`pieces_append`). White space is such a text, and so is a separator with anything
behind it.
-/
import MarkupDesk.Markup.Block
import MarkupDesk.Proofs.Text.Trim

set_option autoImplicit false

namespace MarkupDesk.Markup

open Text (AllBlank isBlank trim trimEnd)

/-- The pieces that are blocks: trimmed, and not empty then. -/
def trimmed (pieces : List Text) : List Text :=
  (pieces.map trim).filter (fun piece => !piece.isEmpty)

/-- The trimmed, non-empty pieces of a text. -/
def pieces (t : Text) : List Text := trimmed (splitAtBlankLines t)

/-- Blocks are made of the pieces that are left when the cut text is trimmed. -/
theorem segment_eq (headings : Bool) (t : Text) :
    segment headings t = (pieces t).map (Block.ofPiece headings) := rfl

theorem trimmed_cons_of_allBlank {piece : Text} (h : AllBlank piece) (rest : List Text) :
    trimmed (piece :: rest) = trimmed rest := by
  simp [trimmed, (Text.trim_eq_nil_iff piece).2 h]

/-- Only the trimmed form of the first piece matters. -/
theorem trimmed_cons_congr {piece piece' : Text} (h : trim piece = trim piece')
    (rest : List Text) : trimmed (piece :: rest) = trimmed (piece' :: rest) := by
  simp only [trimmed, List.map_cons, h]

/-! ## 1. The first piece and the others -/

/-- The text in front of the first separator. -/
def firstPiece (t : Text) : Text := (splitAtBlankLines t).headD []

/-- The pieces behind the first separator. -/
def laterPieces (t : Text) : List Text := (splitAtBlankLines t).tail

/-- A separator at the beginning is cut off whole, with an empty piece in front of it. -/
theorem splitAtBlankLines_separator {rest tail : Text} (h : blankTail? rest = some tail) :
    splitAtBlankLines ('\n' :: rest) = [] :: splitAtBlankLines tail := by
  rw [splitAtBlankLines]
  split
  next found hfound =>
    rw [if_pos rfl, h] at hfound
    rw [Option.some.inj hfound]
  next hnone =>
    rw [if_pos rfl, h] at hnone
    exact absurd hnone (Option.some_ne_none tail)

/-- A text is cut into one piece at least. -/
theorem splitAtBlankLines_ne_nil (t : Text) : splitAtBlankLines t ≠ [] := by
  cases t with
  | nil => simp [splitAtBlankLines]
  | cons c rest =>
    rw [splitAtBlankLines]
    split
    · exact List.cons_ne_nil _ _
    · split <;> exact List.cons_ne_nil _ _

theorem splitAtBlankLines_eq (t : Text) :
    splitAtBlankLines t = firstPiece t :: laterPieces t := by
  obtain ⟨piece, rest, h⟩ := List.exists_cons_of_ne_nil (splitAtBlankLines_ne_nil t)
  rw [firstPiece, laterPieces, h]
  rfl

/-- Where no separator begins, a character belongs to the first piece. -/
theorem splitAtBlankLines_cons {c : Char} {rest : Text} (h : c = '\n' → blankTail? rest = none) :
    splitAtBlankLines (c :: rest) = (c :: firstPiece rest) :: laterPieces rest := by
  have hnone : (if c = '\n' then blankTail? rest else none) = none := by
    by_cases hc : c = '\n'
    · rw [if_pos hc, h hc]
    · rw [if_neg hc]
  rw [splitAtBlankLines]
  split
  next found hfound =>
    rw [hnone] at hfound
    exact absurd hfound.symm (Option.some_ne_none found)
  next => rw [splitAtBlankLines_eq rest]

/-- A separator begins here, or not. -/
theorem separator_or_not (c : Char) (rest : Text) :
    (∃ tail, c = '\n' ∧ blankTail? rest = some tail) ∨ (c = '\n' → blankTail? rest = none) := by
  cases htail : blankTail? rest with
  | none => exact .inr fun _ => rfl
  | some tail =>
    by_cases hc : c = '\n'
    · exact .inl ⟨tail, hc, rfl⟩
    · exact .inr fun h => absurd h hc

theorem firstPiece_separator {rest tail : Text} (h : blankTail? rest = some tail) :
    firstPiece ('\n' :: rest) = [] := by
  rw [firstPiece, splitAtBlankLines_separator h]
  rfl

theorem laterPieces_separator {rest tail : Text} (h : blankTail? rest = some tail) :
    laterPieces ('\n' :: rest) = splitAtBlankLines tail := by
  rw [laterPieces, splitAtBlankLines_separator h]
  rfl

theorem firstPiece_cons {c : Char} {rest : Text} (h : c = '\n' → blankTail? rest = none) :
    firstPiece (c :: rest) = c :: firstPiece rest := by
  rw [firstPiece, splitAtBlankLines_cons h]
  rfl

theorem laterPieces_cons {c : Char} {rest : Text} (h : c = '\n' → blankTail? rest = none) :
    laterPieces (c :: rest) = laterPieces rest := by
  rw [laterPieces, splitAtBlankLines_cons h]
  rfl

theorem pieces_eq (t : Text) : pieces t = trimmed (firstPiece t :: laterPieces t) := by
  rw [pieces, splitAtBlankLines_eq]

theorem pieces_separator {rest tail : Text} (h : blankTail? rest = some tail) :
    pieces ('\n' :: rest) = pieces tail := by
  rw [pieces, splitAtBlankLines_separator h, trimmed_cons_of_allBlank .nil, pieces]

/-! ## 2. White space in front -/

/-- A blank that begins no separator is trimmed off the first piece. -/
theorem pieces_cons_of_no_separator {c : Char} {rest : Text} (hblank : isBlank c = true)
    (h : c = '\n' → blankTail? rest = none) : pieces (c :: rest) = pieces rest := by
  rw [pieces, splitAtBlankLines_cons h, pieces_eq]
  exact trimmed_cons_congr (Text.trim_append_left (w := [c]) (.cons hblank .nil) _) _

/-- The pieces of a text are those of what follows its first line breaks. -/
theorem pieces_of_blankTail? {t tail : Text} (h : blankTail? t = some tail) :
    pieces t = pieces tail := by
  induction t with
  | nil => cases h
  | cons c rest ih =>
    simp only [blankTail?] at h
    split at h
    next hblank =>
      split at h
      next found hfound =>
        -- a later line break ends the run; a line feed here begins a separator with it
        obtain rfl := Option.some.inj h
        by_cases hc : c = '\n'
        · rw [hc, pieces_separator hfound]
        · rw [pieces_cons_of_no_separator hblank fun hnl => absurd hnl hc, ih hfound]
      next hnone =>
        by_cases hc : c = '\n'
        · rw [if_pos hc] at h
          rw [pieces_cons_of_no_separator hblank fun _ => hnone, Option.some.inj h]
        · rw [if_neg hc] at h
          cases h
    next => cases h

/-- A blank in front of a text changes none of its pieces. -/
theorem pieces_cons_of_isBlank {c : Char} (hblank : isBlank c = true) (rest : Text) :
    pieces (c :: rest) = pieces rest := by
  rcases separator_or_not c rest with ⟨tail, rfl, htail⟩ | hno
  · rw [pieces_separator htail, pieces_of_blankTail? htail]
  · exact pieces_cons_of_no_separator hblank hno

/-- White space in front of a text changes none of its pieces. -/
theorem pieces_append_left {w : Text} (h : AllBlank w) (t : Text) :
    pieces (w ++ t) = pieces t := by
  induction w with
  | nil => rfl
  | cons c w ih => rw [List.cons_append, pieces_cons_of_isBlank h.head, ih h.tail]

theorem pieces_nil : pieces [] = [] := by
  simp [pieces, trimmed, splitAtBlankLines]

theorem pieces_of_allBlank {w : Text} (h : AllBlank w) : pieces w = [] := by
  rw [← List.append_nil w, pieces_append_left h, pieces_nil]

/-! ## 3. A text behind another one -/

/-- The first piece of `x` is white space, and stays so when white space comes before it. -/
def Detached (x : Text) : Prop := ∀ w, AllBlank w → AllBlank (firstPiece (w ++ x))

/-- Behind white space that is no separator in full, a run of white space goes on. -/
theorem blankTail?_append_of_not_allBlank {u : Text} (h : ¬ AllBlank u) (x : Text) :
    blankTail? (u ++ x) = (blankTail? u).map (· ++ x) := by
  induction u with
  | nil => exact absurd AllBlank.nil h
  | cons c rest ih =>
    by_cases hblank : isBlank c = true
    · have hrest : ¬ AllBlank rest := fun hrest => h (.cons hblank hrest)
      simp only [List.cons_append, blankTail?, if_pos hblank, ih hrest]
      cases blankTail? rest with
      | some tail => rfl
      | none => by_cases hc : c = '\n' <;> simp [hc]
    · simp [blankTail?, hblank]

/-- White space with a line break in it ends a separator. -/
theorem exists_blankTail? {w : Text} (h : AllBlank w) (v : Text) :
    ∃ tail, blankTail? (w ++ '\n' :: v) = some tail := by
  induction w with
  | nil =>
    have hbreak : isBlank '\n' = true := by decide
    cases htail : blankTail? v with
    | some tail => exact ⟨tail, by simp [blankTail?, hbreak, htail]⟩
    | none => exact ⟨v, by simp [blankTail?, hbreak, htail]⟩
  | cons c w ih =>
    obtain ⟨tail, htail⟩ := ih h.tail
    exact ⟨tail, by simp [blankTail?, h.head, htail]⟩

/-- The first piece is what the text begins with. -/
theorem firstPiece_isPrefix (t : Text) : firstPiece t <+: t := by
  induction t with
  | nil => simp [firstPiece, splitAtBlankLines]
  | cons c rest ih =>
    rcases separator_or_not c rest with ⟨tail, rfl, htail⟩ | hno
    · rw [firstPiece_separator htail]
      exact List.nil_prefix
    · rw [firstPiece_cons hno]
      exact (List.prefix_cons_inj c).2 ih

/-- A first piece of nothing but white space does not count. -/
theorem pieces_of_allBlank_firstPiece {t : Text} (h : AllBlank (firstPiece t)) :
    pieces t = trimmed (laterPieces t) := by
  rw [pieces_eq, trimmed_cons_of_allBlank h]

/-- In `u ++ x` the first piece is that of `u` up to white space at its end, and the pieces of
`x` follow the other pieces of `u`. The first piece is not trimmed as a whole here, because
the text in front of it is not known yet. -/
def CutsBefore (x u : Text) : Prop :=
  trimEnd (firstPiece (u ++ x)) = trimEnd (firstPiece u) ∧
    trimmed (laterPieces (u ++ x)) = trimmed (laterPieces u) ++ pieces x

/-- Where a text is cut in front of another one, the pieces of the two stand behind each
other. -/
theorem CutsBefore.pieces_append {x u : Text} (h : CutsBefore x u) :
    pieces (u ++ x) = pieces u ++ pieces x := by
  have hfirst : trim (firstPiece (u ++ x)) = trim (firstPiece u) := by
    rw [Text.trim_eq_trimStart_trimEnd, h.1, ← Text.trim_eq_trimStart_trimEnd]
  have hsplit : ∀ (p : Text) (ps : List Text), trimmed (p :: ps) = trimmed [p] ++ trimmed ps := by
    intro p ps
    rw [trimmed, trimmed, trimmed, ← List.filter_append, ← List.map_append, List.singleton_append]
  calc pieces (u ++ x)
      = trimmed (firstPiece (u ++ x) :: laterPieces (u ++ x)) := pieces_eq (u ++ x)
    _ = trimmed (firstPiece u :: laterPieces (u ++ x)) := trimmed_cons_congr hfirst _
    _ = trimmed [firstPiece u] ++ (trimmed (laterPieces u) ++ pieces x) := by rw [hsplit, h.2]
    _ = pieces u ++ pieces x := by rw [← List.append_assoc, ← hsplit, ← pieces_eq]

/-- Every text is cut in front of a detached text. The induction is on the length, because a
separator takes a whole run of white space. -/
theorem Detached.cutsBefore {x : Text} (hx : Detached x) (u : Text) : CutsBefore x u := by
  induction hlength : u.length using Nat.strong_induction_on generalizing u with
  | _ n ih =>
    by_cases hu : AllBlank u
    · -- nothing but white space stands before the detached text
      have hfirst : AllBlank (firstPiece u) :=
        fun c hc => hu c ((firstPiece_isPrefix u).subset hc)
      constructor
      · rw [Text.trimEnd_of_allBlank (hx u hu), Text.trimEnd_of_allBlank hfirst]
      · rw [← pieces_of_allBlank_firstPiece (hx u hu), pieces_append_left hu,
          ← pieces_of_allBlank_firstPiece hfirst, pieces_of_allBlank hu, List.nil_append]
    cases u with
    | nil => exact absurd AllBlank.nil hu
    | cons c rest =>
      have hlonger : rest.length < n := by rw [← hlength]; exact Nat.lt_succ_self _
      -- a separator is cut off as a whole; otherwise one character goes to the first piece
      rcases separator_or_not c rest with ⟨tail, rfl, htail⟩ | hno
      · have hrest : ¬ AllBlank rest := fun h => hu (.cons (by decide) h)
        have hboth : blankTail? (rest ++ x) = some (tail ++ x) := by
          rw [blankTail?_append_of_not_allBlank hrest, htail, Option.map_some]
        have hshorter := length_of_blankTail? htail
        have hcut : CutsBefore x tail := ih tail.length (by omega) tail rfl
        constructor
        · rw [List.cons_append, firstPiece_separator hboth, firstPiece_separator htail]
        · rw [List.cons_append, laterPieces_separator hboth, laterPieces_separator htail]
          exact hcut.pieces_append
      · have hnoBoth : c = '\n' → blankTail? (rest ++ x) = none := by
          intro hc
          have hrest : ¬ AllBlank rest := fun h => hu (.cons (by rw [hc]; decide) h)
          rw [blankTail?_append_of_not_allBlank hrest, hno hc, Option.map_none]
        have hcut : CutsBefore x rest := ih rest.length hlonger rest rfl
        constructor
        · rw [List.cons_append, firstPiece_cons hnoBoth, firstPiece_cons hno, Text.trimEnd_cons,
            Text.trimEnd_cons, hcut.1]
        · rw [List.cons_append, laterPieces_cons hnoBoth, laterPieces_cons hno]
          exact hcut.2

/-- **A detached text contributes its own pieces**, whatever stands in front of it. -/
theorem Detached.pieces_append {x : Text} (hx : Detached x) (u : Text) :
    pieces (u ++ x) = pieces u ++ pieces x :=
  (hx.cutsBefore u).pieces_append

/-! ## 4. What is detached -/

/-- White space is detached: behind any text it only lengthens what is trimmed. -/
theorem detached_of_allBlank {w : Text} (h : AllBlank w) : Detached w := by
  intro before hbefore c hc
  exact hbefore.append h c ((firstPiece_isPrefix _).subset hc)

/-- White space behind a text changes none of its pieces. -/
theorem pieces_append_right {w : Text} (h : AllBlank w) (t : Text) :
    pieces (t ++ w) = pieces t := by
  rw [(detached_of_allBlank h).pieces_append, pieces_of_allBlank h, List.append_nil]

/-- Trimming a text changes none of its pieces. -/
theorem pieces_trim (t : Text) : pieces (trim t) = pieces t := by
  obtain ⟨before, behind, hbefore, hbehind, htext⟩ := Text.exists_eq_blank_trim_blank t
  conv_rhs => rw [htext]
  rw [pieces_append_left hbefore, pieces_append_right hbehind]

/-- A separator is detached, whatever follows it. -/
theorem detached_separator {w : Text} (h : AllBlank w) (v : Text) :
    Detached ('\n' :: (w ++ '\n' :: v)) := by
  intro before hbefore
  induction before with
  | nil =>
    obtain ⟨tail, htail⟩ := exists_blankTail? h v
    rw [List.nil_append, firstPiece_separator htail]
    exact .nil
  | cons c before ih =>
    -- a line feed in the white space before it begins the separator earlier
    by_cases hc : c = '\n'
    · have hrun : before ++ '\n' :: (w ++ '\n' :: v) = (before ++ '\n' :: w) ++ '\n' :: v := by
        rw [List.append_assoc, List.cons_append]
      have hblank : AllBlank (before ++ '\n' :: w) :=
        hbefore.tail.append (.cons (by decide) h)
      obtain ⟨tail, htail⟩ := exists_blankTail? hblank v
      rw [List.cons_append, hc, hrun, firstPiece_separator htail]
      exact .nil
    · rw [List.cons_append, firstPiece_cons fun hnl => absurd hnl hc]
      exact .cons hbefore.head (ih hbefore.tail)

/-- **A text is cut at every blank line.** The pieces of two texts with a separator between
them are the pieces of the one and then the pieces of the other. -/
theorem pieces_append_separator {w : Text} (h : AllBlank w) (u v : Text) :
    pieces (u ++ '\n' :: (w ++ '\n' :: v)) = pieces u ++ pieces v := by
  have hblank : AllBlank ('\n' :: (w ++ ['\n'])) :=
    .cons (by decide) (h.append (.cons (by decide) .nil))
  have hsplit : '\n' :: (w ++ '\n' :: v) = ('\n' :: (w ++ ['\n'])) ++ v := by simp
  rw [(detached_separator h v).pieces_append, hsplit, pieces_append_left hblank]

/-! ## 5. Lines -/

/-- White space without a line feed ends no separator. -/
theorem blankTail?_of_line {t : Text} (h : '\n' ∉ t) : blankTail? t = none := by
  induction t with
  | nil => rfl
  | cons c rest ih =>
    obtain ⟨hc, hrest⟩ := not_or.1 (mt List.mem_cons.2 h)
    rw [blankTail?, ih hrest, if_neg (Ne.symm hc)]
    split <;> rfl

/-- The first line of a text belongs to the first piece. -/
theorem splitAtBlankLines_line {line : Text} (h : '\n' ∉ line) (rest : Text) :
    splitAtBlankLines (line ++ rest) = (line ++ firstPiece rest) :: laterPieces rest := by
  induction line with
  | nil => exact splitAtBlankLines_eq rest
  | cons c line ih =>
    obtain ⟨hc, hline⟩ := not_or.1 (mt List.mem_cons.2 h)
    have htail := ih hline
    rw [splitAtBlankLines_eq] at htail
    obtain ⟨hfirst, hlater⟩ := List.cons.inj htail
    rw [List.cons_append, splitAtBlankLines_cons fun hfeed => absurd hfeed.symm hc, hfirst, hlater,
      List.cons_append]

/-- A line is one piece, since a separator has a line feed. -/
theorem splitAtBlankLines_of_line {t : Text} (h : '\n' ∉ t) : splitAtBlankLines t = [t] := by
  have hline := splitAtBlankLines_line h []
  have hnil : splitAtBlankLines [] = [[]] := by simp [splitAtBlankLines]
  rwa [List.append_nil, firstPiece, laterPieces, hnil, List.headD_cons, List.append_nil,
    List.tail_cons] at hline

/-- **A line feed in front of a line that is not blank separates nothing.** -/
theorem splitAtBlankLines_filled {above below : Text} (habove : '\n' ∉ above)
    (hbelow : blankTail? below = none) :
    splitAtBlankLines (above ++ '\n' :: below) =
      (above ++ '\n' :: firstPiece below) :: laterPieces below := by
  rw [splitAtBlankLines_line habove, firstPiece_cons fun _ => hbelow, laterPieces_cons fun _ => hbelow]

end MarkupDesk.Markup
