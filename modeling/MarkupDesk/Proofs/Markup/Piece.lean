/-
`Proofs/Markup/Piece.lean` -- the pieces that the HTML of a paragraph is made of.

While markers are expanded the text is a sequence of pieces: characters that need no
escape, entities, and whole opening and closing tags. A brace in the text is a piece of
its own, because neither entities nor tags have one (`exists_cut`): every pass cuts at
braces, and so it cuts between pieces, wherever it cuts.
-/
import MarkupDesk.Proofs.Markup.Sweep
import MarkupDesk.Proofs.Text.Trim

set_option autoImplicit false

namespace MarkupDesk.Markup

/-! ## 1. Entities -/

/-- The entities that escaping writes. -/
inductive Entity where
  | amp
  | lt
  | gt
  | quot
  | apos
  deriving DecidableEq, Repr

/-- The entity as it is written. -/
def Entity.text : Entity → Text
  | amp => ['&', 'a', 'm', 'p', ';']
  | lt => ['&', 'l', 't', ';']
  | gt => ['&', 'g', 't', ';']
  | quot => ['&', 'q', 'u', 'o', 't', ';']
  | apos => ['&', '#', '0', '3', '9', ';']

/-- The characters that a page must not hold as they are. -/
def specialChars : List Char := ['<', '>', '"', '\'', '&']

/-- A special character is written as an entity, and every other one as itself. -/
theorem escapeChar_cases (c : Char) :
    (∃ entity : Entity, Html.escapeChar c = entity.text) ∨
      c ∉ specialChars ∧ Html.escapeChar c = [c] := by
  unfold Html.escapeChar
  split
  · exact .inl ⟨.amp, rfl⟩
  · exact .inl ⟨.lt, rfl⟩
  · exact .inl ⟨.gt, rfl⟩
  · exact .inl ⟨.quot, rfl⟩
  · exact .inl ⟨.apos, rfl⟩
  · refine .inr ⟨?_, rfl⟩
    simp_all [specialChars]

/-- A character that no entity has is in an escaped text only as itself. -/
theorem mem_of_mem_escape {c : Char} (hc : ∀ e : Entity, c ∉ e.text) {t : Text}
    (h : c ∈ Html.escape t) : c ∈ t ∧ c ∉ specialChars := by
  induction t with
  | nil => cases h
  | cons x t ih =>
    rw [Html.escape_cons] at h
    rcases List.mem_append.1 h with h | h
    · rcases escapeChar_cases x with ⟨e, he⟩ | ⟨hx, he⟩
      · exact absurd (he ▸ h) (hc e)
      · obtain rfl : c = x := List.mem_singleton.1 (he ▸ h)
        exact ⟨List.mem_cons_self, hx⟩
    · exact ⟨List.mem_cons_of_mem _ (ih h).1, (ih h).2⟩

/-- An escaped text has no angle, so no tag begins in it. -/
theorem langle_notMem_escape (t : Text) : '<' ∉ Html.escape t := fun h =>
  (mem_of_mem_escape (fun e => by cases e <;> decide) h).2 (by decide)

/-- A brace in an escaped text was a brace before, since no entity has one. -/
theorem brace_mem_of_mem_escape {c : Char} (hc : c = '{' ∨ c = '}') {t : Text}
    (h : c ∈ Html.escape t) : c ∈ t := by
  refine (mem_of_mem_escape (fun e => ?_) h).1
  rcases hc with rfl | rfl <;> cases e <;> decide

/-! ## 2. Pieces -/

/-- A configured marker: its key and its element. -/
abbrev Entry : Type := Text × MarkerSpec

/-- A piece of the HTML of a line. -/
inductive Piece where
  | plain (c : Char)
  | entity (e : Entity)
  | opening (entry : Entry)
  | closing (entry : Entry)
  deriving DecidableEq, Repr

/-- The piece as it is written. -/
def Piece.text : Piece → Text
  | plain c => [c]
  | entity e => e.text
  | opening entry => entry.2.openingTag
  | closing entry => entry.2.closingTag

/-- The pieces, one behind the other. -/
def textOf (pieces : List Piece) : Text := pieces.flatMap Piece.text

@[simp] theorem textOf_nil : textOf [] = [] := rfl

@[simp] theorem textOf_cons (piece : Piece) (pieces : List Piece) :
    textOf (piece :: pieces) = piece.text ++ textOf pieces := List.flatMap_cons

@[simp] theorem textOf_append (pieces others : List Piece) :
    textOf (pieces ++ others) = textOf pieces ++ textOf others := List.flatMap_append

/-! ## 3. Braces stand alone -/

/-- The text has no brace. -/
def BraceFree (t : Text) : Prop := '{' ∉ t ∧ '}' ∉ t

instance (t : Text) : Decidable (BraceFree t) := inferInstanceAs (Decidable (_ ∧ _))

/-- Neither the tag nor the class has a brace. -/
def MarkerSpec.BraceFree (spec : MarkerSpec) : Prop :=
  Markup.BraceFree spec.tag ∧ ∀ cls ∈ spec.cls, Markup.BraceFree cls

instance (spec : MarkerSpec) : Decidable spec.BraceFree := inferInstanceAs (Decidable (_ ∧ _))

/-- An opening tag has no brace if tag and class have none. -/
theorem MarkerSpec.BraceFree.openingTag {spec : MarkerSpec} (h : spec.BraceFree) :
    Markup.BraceFree spec.openingTag := by
  obtain ⟨⟨htag, htag'⟩, hcls⟩ := h
  cases hspec : spec.cls with
  | none => simp [MarkerSpec.openingTag, Markup.BraceFree, hspec, htag, htag']
  | some cls =>
    obtain ⟨hopen, hclose⟩ := hcls cls hspec
    simp [MarkerSpec.openingTag, Markup.BraceFree, hspec, htag, htag', hopen, hclose]

theorem MarkerSpec.BraceFree.closingTag {spec : MarkerSpec} (h : spec.BraceFree) :
    Markup.BraceFree spec.closingTag := by
  obtain ⟨⟨htag, htag'⟩, -⟩ := h
  simp [MarkerSpec.closingTag, Markup.BraceFree, htag, htag']

/-- The piece is no tag with a brace in it. -/
def Piece.Whole : Piece → Prop
  | plain _ => True
  | entity _ => True
  | opening entry => entry.2.BraceFree
  | closing entry => entry.2.BraceFree

/-- A piece with a brace in it is that brace. -/
theorem Piece.eq_plain_of_mem {piece : Piece} (h : piece.Whole) {c : Char}
    (hc : c = '{' ∨ c = '}') (hmem : c ∈ piece.text) : piece = .plain c := by
  cases piece with
  | plain x =>
    obtain rfl : c = x := List.mem_singleton.1 hmem
    rfl
  | entity e => rcases hc with rfl | rfl <;> cases e <;> simp [Piece.text, Entity.text] at hmem
  | opening entry =>
    obtain ⟨hopen, hclose⟩ := MarkerSpec.BraceFree.openingTag h
    rcases hc with rfl | rfl
    · exact absurd hmem hopen
    · exact absurd hmem hclose
  | closing entry =>
    obtain ⟨hopen, hclose⟩ := MarkerSpec.BraceFree.closingTag h
    rcases hc with rfl | rfl
    · exact absurd hmem hopen
    · exact absurd hmem hclose

/-- **A brace is a cut between pieces.** Where the text of the pieces has a brace, the
pieces before it and the pieces behind it are the text before and the text behind. -/
theorem exists_cut {c : Char} (hc : c = '{' ∨ c = '}') {pieces : List Piece}
    (hwhole : ∀ piece ∈ pieces, piece.Whole) {before behind : Text}
    (h : textOf pieces = before ++ c :: behind) :
    ∃ front back, pieces = front ++ .plain c :: back ∧ textOf front = before ∧
      textOf back = behind := by
  induction pieces generalizing before with
  | nil => cases before <;> cases h
  | cons piece pieces ih =>
    rw [textOf_cons] at h
    have hpieces : ∀ piece ∈ pieces, piece.Whole := fun p hp => hwhole p (List.mem_cons_of_mem _ hp)
    rcases Text.append_eq_cut h with ⟨rest, hpiece, rfl⟩ | ⟨rest, rfl, hrest⟩
    -- the brace is in the first piece, which is nothing else then
    · have hplain : piece = .plain c :=
        Piece.eq_plain_of_mem (hwhole piece List.mem_cons_self) hc (by simp [hpiece])
      subst hplain
      obtain ⟨rfl, rfl⟩ : before = [] ∧ rest = [] := by
        cases before with
        | nil => simpa [Piece.text] using hpiece
        | cons b before => simp [Piece.text] at hpiece
      exact ⟨[], pieces, rfl, rfl, rfl⟩
    · obtain ⟨front, back, rfl, hfront, hback⟩ := ih hpieces hrest
      exact ⟨piece :: front, back, rfl, by rw [textOf_cons, hfront], hback⟩

end MarkupDesk.Markup
