/-
`Proofs/Editing/Pairs.lean` -- what the pairs make of a typed character.

At a caret, with nothing selected, a typed character has one of three effects: it brings its
closing character, it steps over a closing character that is there already, or the pairs have
nothing to do with it (`autoPair?_cases`). Whichever it is, the character ends up in front of
the caret, and behind the caret nothing but a closing character comes or goes.
-/
import MarkupDesk.Editing.Completion
import MarkupDesk.Proofs.Text.Pieces

set_option autoImplicit false

namespace MarkupDesk.Editing

variable {t : Text} {place : Nat} {c closing : Char}

/-! ## 1. The effects -/

/-- The characters that close a pair. -/
def closers : Text := ['}', ')', ']', '>', '"', '\'']

/-- What closes a pair is one of the closing characters. -/
theorem mem_closers_of_closingOf? (h : closingOf? c = some closing) : closing ∈ closers := by
  obtain ⟨pair, hpair, rfl⟩ := Option.map_eq_some_iff.1 h
  exact List.mem_map_of_mem (f := Prod.snd) (List.mem_of_find?_eq_some hpair)

/-- A character that is stepped over is one as well. -/
theorem mem_closers_of_isClosing (h : isClosing c = true) : c ∈ closers := by
  obtain ⟨pair, hpair, heq⟩ := List.any_eq_true.1 h
  rw [← eq_of_beq heq]
  exact List.mem_map_of_mem (f := Prod.snd) hpair

/-- **The three effects of a typed character.** -/
theorem autoPair?_cases (t : Text) (place : Nat) (c : Char) :
    (∃ closing ∈ closers, autoPair? t place place c =
      some ⟨t.take place ++ c :: closing :: t.drop place, place + 1, place + 1⟩) ∨
    (∃ rest, c ∈ closers ∧ t.drop place = c :: rest ∧
      autoPair? t place place c = some (.caret t (place + 1))) ∨
    autoPair? t place place c = none := by
  unfold autoPair?
  simp only [Nat.min_self, Nat.max_self, true_and]
  cases hclosing : closingOf? c with
  | some closing =>
    -- there is no selection that the pair goes around
    have hbetween : (t.take place).drop place = [] :=
      List.drop_eq_nil_of_le (List.length_take_le place t)
    refine .inl ⟨closing, mem_closers_of_closingOf? hclosing, ?_⟩
    simp only [hbetween]
    rw [List.append_assoc, List.singleton_append]
  | none =>
    by_cases hstep : isClosing c = true ∧ (t.drop place).head? = some c
    · obtain ⟨rest, hrest⟩ := List.head?_eq_some_iff.1 hstep.2
      exact .inr (.inl ⟨rest, mem_closers_of_isClosing hstep.1, hrest, if_pos hstep⟩)
    · exact .inr (.inr (if_neg hstep))

/-- A pair makes the text longer. -/
theorem byteLength_pair_ne (t : Text) (place : Nat) (c closing : Char) :
    Text.byteLength (t.take place ++ c :: closing :: t.drop place) ≠ Text.byteLength t := by
  have hwhole : Text.byteLength t =
      Text.byteLength (t.take place) + Text.byteLength (t.drop place) := by
    rw [← Text.byteLength_append, List.take_append_drop]
  have hsize := c.utf8Size_pos
  rw [Text.byteLength_append, Text.byteLength, Text.byteLength]
  omega

/-- An edit of a pair that makes the text no longer steps over a closing character. -/
theorem selectionEnd_le_of_autoPair? {edit : Edit} (h : autoPair? t place place c = some edit)
    (hsame : edit.text.byteLength = Text.byteLength t) : edit.selectionEnd ≤ t.length := by
  rcases autoPair?_cases t place c with ⟨closing, -, hpair⟩ | ⟨rest, -, hrest, hpair⟩ | hpair
  · obtain rfl := Option.some.inj (hpair.symm.trans h)
    exact absurd hsame (byteLength_pair_ne t place c closing)
  · obtain rfl := Option.some.inj (hpair.symm.trans h)
    have hlength : t.length - place = rest.length + 1 := by
      rw [← List.length_drop, hrest, List.length_cons]
    show place + 1 ≤ t.length
    omega
  · nomatch hpair.symm.trans h

/-! ## 2. Texts behind a caret -/

/-- The texts differ at the front only, and only in closing characters there. -/
def Reclosed (earlier later : Text) : Prop :=
  ∃ gone come rest, earlier = gone ++ rest ∧ later = come ++ rest ∧
    (∀ c ∈ gone, c ∈ closers) ∧ ∀ c ∈ come, c ∈ closers

namespace Reclosed

variable {first second third : Text}

/-- A text is reclosed by doing nothing. With pushing, popping and chaining, the relation is
that of all that typing does behind the caret. -/
theorem refl (t : Text) : Reclosed t t :=
  ⟨[], [], t, rfl, rfl, List.forall_mem_nil _, List.forall_mem_nil _⟩

/-- A closing character comes. -/
theorem push (h : closing ∈ closers) (t : Text) : Reclosed t (closing :: t) :=
  ⟨[], [closing], t, rfl, rfl, List.forall_mem_nil _, List.forall_mem_singleton.2 h⟩

/-- A closing character goes. -/
theorem pop (h : closing ∈ closers) (t : Text) : Reclosed (closing :: t) t :=
  ⟨[closing], [], t, rfl, rfl, List.forall_mem_singleton.2 h, List.forall_mem_nil _⟩

/-- What came first may go again, and then something of what was there before. -/
theorem trans (h : Reclosed first second) (h' : Reclosed second third) : Reclosed first third := by
  obtain ⟨gone, come, rest, rfl, rfl, hgone, hcome⟩ := h
  obtain ⟨gone', come', rest', hsecond, rfl, hgone', hcome'⟩ := h'
  rcases List.append_eq_append_iff.1 hsecond with ⟨more, rfl, rfl⟩ | ⟨more, rfl, rfl⟩
  · have hmore : ∀ c ∈ more, c ∈ closers := fun c hc => hgone' c (List.mem_append_right come hc)
    refine ⟨gone ++ more, come', rest', (List.append_assoc gone more rest').symm, rfl, ?_, hcome'⟩
    exact List.forall_mem_append.2 ⟨hgone, hmore⟩
  · have hmore : ∀ c ∈ more, c ∈ closers := fun c hc => hcome c (List.mem_append_right gone' hc)
    refine ⟨gone, come' ++ more, rest, rfl, (List.append_assoc come' more rest).symm, hgone, ?_⟩
    exact List.forall_mem_append.2 ⟨hcome', hmore⟩

end Reclosed

end MarkupDesk.Editing
