/-
`Proofs/Editor/Typing.lean` -- what is typed stands in front of the caret.

A character that is typed may bring another one with it, it may be stepped over instead of
being put in, and a popup may be open that takes keys for itself. None of this can be seen in
front of the caret: there stands what stood there, and then what was typed (`typed_before`).
Behind the caret closing characters have come or gone, and nothing else.

One character is `type_typed`, by the three effects that the pairs can have. Between two
characters the screen is drawn and the content may be saved, neither of which touches the text
or the caret, so the rest is an induction on what is typed.
-/
import MarkupDesk.Proofs.Editing.Pairs
import MarkupDesk.Proofs.Editor.Popup

set_option autoImplicit false

namespace MarkupDesk.Editor

open Editing (Reclosed closers autoPair?)

variable {e e' : Editor} {s : Session} {ticks : Nat} {c : Char} {t : Text}

/-! ## 1. The two sides of the caret -/

/-- The text in front of the caret. -/
def before (e : Editor) : Text := e.source.take e.caret.place

/-- The text behind the caret. -/
def after (e : Editor) : Text := e.source.drop e.caret.place

/-- The caret is in the text or at its end. -/
def CaretInText (e : Editor) : Prop := e.caret.place ≤ e.source.length

instance (e : Editor) : Decidable (CaretInText e) := inferInstanceAs (Decidable (_ ≤ _))

/-- The text before the caret is as long as the caret's place says; for this the caret has to
be in the text. -/
theorem length_before (h : CaretInText e) : e.before.length = e.caret.place :=
  List.length_take_of_le h

/-- A text cut where the caret is. -/
theorem sides_of_eq {front back : Text} (htext : e.source = front ++ back)
    (hplace : e.caret.place = front.length) :
    e.before = front ∧ e.after = back ∧ CaretInText e := by
  refine ⟨?_, ?_, ?_⟩
  · rw [before, htext, hplace, List.take_left]
  · rw [after, htext, hplace, List.drop_left]
  · rw [CaretInText, htext, hplace, List.length_append]
    exact Nat.le_add_right _ _

/-! ## 2. One character -/

/-- The text was typed: it stands behind what was in front of the caret, and behind the caret only
closing characters have come or gone. The caret is still in the text. -/
structure Inserted (t : Text) (e e' : Editor) : Prop where
  before : e'.before = e.before ++ t
  after : Reclosed e.after e'.after
  placed : CaretInText e'

/-- What was typed is in, if the text is cut at the caret as it should be. -/
theorem inserted_of_eq (h : CaretInText e) (back : Text) (htext : e'.source = e.before ++ t ++ back)
    (hplace : e'.caret.place = e.caret.place + t.length) (hback : Reclosed e.after back) :
    Inserted t e e' := by
  have hfront : e'.caret.place = (e.before ++ t).length := by
    rw [List.length_append, length_before h, hplace]
  obtain ⟨hbefore, hafter, hplaced⟩ := sides_of_eq htext hfront
  exact ⟨hbefore, hafter ▸ hback, hplaced⟩

/-- Where the text and the caret are left alone nothing is typed. -/
theorem inserted_nil (h : CaretInText e) (htext : e'.source = e.source)
    (hplace : e'.caret.place = e.caret.place) : Inserted [] e e' := by
  refine inserted_of_eq h e.after ?_ hplace (.refl e.after)
  rw [htext, List.append_nil]
  exact (List.take_append_drop _ _).symm

/-- One text is typed, and then another one. -/
theorem Inserted.trans {t' : Text} {e'' : Editor} (h : Inserted t e e') (h' : Inserted t' e' e'') :
    Inserted (t ++ t') e e'' := by
  refine ⟨?_, h.after.trans h'.after, h'.placed⟩
  rw [h'.before, h.before, List.append_assoc]

/-- A caret that is put into the text is where it was put. -/
theorem replaceSource_place {text : Text} {place : Nat} (h : place ≤ text.length) :
    (e.replaceSource ticks text place).caret.place = place := Nat.min_eq_left h

/-- **A character is typed.** Of the three effects that the pairs may have, two put the
character in, and the third steps over one that is there; in each the caret is behind it
then. -/
theorem type_typed (h : CaretInText e) (ticks : Nat) (c : Char) :
    Inserted [c] e (e.type ticks c) := by
  have hwhole : e.before ++ e.after = e.source := List.take_append_drop _ _
  have hlength : e.caret.place + e.after.length = e.source.length := by
    rw [← hwhole, List.length_append, length_before h]
  unfold type
  rcases Editing.autoPair?_cases e.source e.caret.place c with
    ⟨closing, hclosing, hpair⟩ | ⟨rest, hclosing, hrest, hpair⟩ | hpair
  · -- the character brings its closing one
    have hlonger := Editing.byteLength_pair_ne e.source e.caret.place c closing
    simp only [hpair]
    rw [if_neg hlonger]
    refine inserted_of_eq h (closing :: e.after) ?_ ?_ (.push hclosing e.after)
    · show e.before ++ c :: closing :: e.after = e.before ++ [c] ++ closing :: e.after
      rw [List.append_assoc, List.singleton_append]
    · refine replaceSource_place ?_
      show e.caret.place + 1 ≤ (e.before ++ c :: closing :: e.after).length
      rw [List.length_append, length_before h, List.length_cons]
      omega
  · -- the character is there already
    have hafter : e.after = c :: rest := hrest
    have hsame : (Editing.Edit.caret e.source (e.caret.place + 1)).text.byteLength =
        e.source.byteLength := rfl
    simp only [hpair]
    rw [if_pos hsame]
    refine inserted_of_eq h rest ?_ rfl (hafter ▸ .pop hclosing rest)
    show e.source = e.before ++ [c] ++ rest
    rw [← hwhole, hafter, List.append_assoc, List.singleton_append]
  · simp only [hpair]
    refine inserted_of_eq h e.after rfl ?_ (.refl e.after)
    refine replaceSource_place ?_
    show e.caret.place + 1 ≤ (e.before ++ [c] ++ e.after).length
    simp only [List.length_append, length_before h, List.length_singleton]
    omega

/-- A character key is typed, whether or not a popup is open, and suggestions are made for it. -/
theorem handle_char (hmode : e.mode = .insert) (rows : Nat) (c : Char) (s : Session) :
    (e.handle rows ⟨.char c, false⟩).run s = ((e.type s.ticks c).refreshPopup, s) := by
  have hpopup : (e.popup.bind fun popup => e.popupKey? s.ticks (.char c) popup) = none := by
    cases e.popup with
    | none => rfl
    | some popup => rfl
  unfold handle
  rw [hmode]
  simp only
  rw [insertKey_run]
  simp only [hpopup]
  rfl

/-! ## 3. Between characters -/

/-- A step that the editor takes by itself: the screen is drawn, or the content is saved if it is
time to. -/
def Event.Idle : Event → Prop
  | .prepare _ => True
  | .autosave => True
  | _ => False

/-- The text, the caret with the column that it remembers, the popup and the mode, and whether the
editor has ended. -/
structure Stance where
  text : Text
  caret : Editing.Caret
  popup : Option Popup
  mode : Mode
  ended : Bool

def stance (e : Editor) : Stance := ⟨e.source, e.caret, e.popup, e.mode, e.ended⟩

/-- Drawing changes nothing that typing depends on. -/
theorem prepare_stance (size : Nat × Nat) (e : Editor) : (e.prepare size).stance = e.stance := by
  obtain ⟨_, _, _, _, hprepared⟩ := exists_prepare_eq size e
  rw [hprepared]
  rfl

/-- Neither does a save: it is the same text behind it, and the caret is where it was. -/
theorem savePending_stance (e : Editor) (s : Session) :
    (e.savePending.run s).1.stance = e.stance := by
  rw [savePending_run]
  split
  · obtain ⟨_, _, _, _, hsaved⟩ := exists_saveNow_eq e s
    rw [hsaved]
    rfl
  · rfl

/-- Such a step leaves all of it alone. -/
theorem Event.Idle.stance {event : Event} (h : event.Idle) (e : Editor) (s : Session) :
    ((event.run e).run s).1.stance = e.stance := by
  cases event with
  | prepare size => exact prepare_stance size e
  | autosave => exact savePending_stance e s
  | key _ _ | command _ | leave => exact h.elim

/-- A text is typed: its characters are keys, one after the other, and between them the editor does
what it does by itself. Every step has a session of its own, so time passes between them and other
programs do what they like. -/
inductive Typed : Text → Editor → Editor → Prop where
  | nothing (e : Editor) : Typed [] e e
  | char {c : Char} {t : Text} {e e' : Editor} (rows : Nat) (s : Session)
    (h : Typed t ((e.handle rows ⟨.char c, false⟩).run s).1 e') : Typed (c :: t) e e'
  | idle {t : Text} {e e' : Editor} (event : Event) (hidle : event.Idle) (s : Session)
    (h : Typed t ((event.run e).run s).1 e') : Typed t e e'

/-- A press of a character key: the screen is drawn, the character is typed, and the content is
saved if it is time to. -/
theorem press_char (hmode : e.mode = .insert) (hopen : e.ended = false) (size : Nat × Nat)
    (c : Char) (s : Session) :
    (e.press size ⟨.char c, false⟩).run s =
      ((e.prepare size).type s.ticks c).refreshPopup.savePending.run s := by
  obtain ⟨-, -, -, hprepared, hstill⟩ := Stance.mk.inj (prepare_stance size e)
  have htyped : ((e.prepare size).type s.ticks c).refreshPopup.ended = false :=
    (type_stroke s.ticks (.char c) c (e.prepare size)).ended_eq.trans (hstill.trans hopen)
  exact press_of_open hopen (handle_char (hprepared.trans hmode) _ c s) htyped

/-- Behind a character the editor still takes characters. -/
theorem press_char_mode (hmode : e.mode = .insert) (hopen : e.ended = false) (size : Nat × Nat)
    (c : Char) (s : Session) :
    ((e.press size ⟨.char c, false⟩).run s).1.mode = .insert ∧
      ((e.press size ⟨.char c, false⟩).run s).1.ended = false := by
  obtain ⟨-, -, -, hprepared, hstill⟩ := Stance.mk.inj (prepare_stance size e)
  obtain ⟨-, -, -, hkept, hkept'⟩ :=
    Stance.mk.inj (savePending_stance ((e.prepare size).type s.ticks c).refreshPopup s)
  have htyped := type_stroke s.ticks (.char c) c (e.prepare size)
  rw [press_char hmode hopen]
  constructor
  · exact hkept.trans ((htyped.mode_eq rfl).trans (hprepared.trans hmode))
  · exact hkept'.trans (htyped.ended_eq.trans (hstill.trans hopen))

/-- A press is a key between two steps that the editor takes by itself. -/
theorem Typed.press (hmode : e.mode = .insert) (hopen : e.ended = false) (size : Nat × Nat)
    (s : Session) (h : Typed t ((e.press size ⟨.char c, false⟩).run s).1 e') :
    Typed (c :: t) e e' := by
  have hprepared : (e.prepare size).mode = .insert :=
    (congrArg Stance.mode (prepare_stance size e)).trans hmode
  rw [press_char hmode hopen] at h
  refine .idle (.prepare size) trivial s (.char (e.layout size).editor.innerSize.2 s ?_)
  show Typed t (((e.prepare size).handle _ _).run s).1 e'
  rw [handle_char hprepared]
  exact .idle .autosave trivial s h

/-- The editor and the session behind the presses of the keys of a text. -/
def presses (size : Nat × Nat) : Text → Editor → Session → Editor × Session
  | [], e, s => (e, s)
  | c :: t, e, s =>
    let pressed := (e.press size ⟨.char c, false⟩).run s
    presses size t pressed.1 pressed.2

/-- Whoever presses the keys of a text types it. -/
theorem typed_presses (hmode : e.mode = .insert) (hopen : e.ended = false) (size : Nat × Nat)
    (t : Text) (s : Session) : Typed t e (presses size t e s).1 := by
  induction t generalizing e s with
  | nil => exact .nothing e
  | cons c t ih =>
    obtain ⟨hmode', hopen'⟩ := press_char_mode hmode hopen size c s
    exact .press hmode hopen size s (ih hmode' hopen' _)

/-! ## 4. A text -/

/-- By induction on what is typed: one character more, and what happens by itself between two
characters. -/
theorem Typed.inserted (h : Typed t e e') (hmode : e.mode = .insert) (hplaced : CaretInText e) :
    Inserted t e e' := by
  induction h with
  | nothing e => exact inserted_nil hplaced rfl rfl
  | @char c t e e' rows s _ ih =>
    rw [handle_char hmode] at ih
    have htyped : Inserted [c] e (e.type s.ticks c) := type_typed hplaced s.ticks c
    -- the popup is brought up to date behind each character and writes nothing
    have hsuggested : Inserted [] (e.type s.ticks c) (e.type s.ticks c).refreshPopup :=
      inserted_nil htyped.placed rfl rfl
    have hfirst : Inserted [c] e (e.type s.ticks c).refreshPopup := htyped.trans hsuggested
    have hstill : (e.type s.ticks c).mode = e.mode :=
      (type_stroke s.ticks (.char c) c e).mode_eq rfl
    exact hfirst.trans (ih (hstill.trans hmode) hfirst.placed)
  | @idle t e e' event hidle s _ ih =>
    obtain ⟨htext, hcaret, -, hkept, -⟩ := Stance.mk.inj (hidle.stance e s)
    have hnothing : Inserted [] e ((event.run e).run s).1 :=
      inserted_nil hplaced htext (congrArg Editing.Caret.place hcaret)
    exact hnothing.trans (ih (hkept.trans hmode) hnothing.placed)

/-- **What is typed is what stands before the caret.** In insert mode, with the caret in the text
as it is in every run (`Run.cursor`), whatever is typed stands behind what was in front of the
caret before. The text behind the caret differs in closing characters at its front at most. -/
theorem typed_before (hmode : e.mode = .insert) (hplaced : CaretInText e) (h : Typed t e e') :
    e'.before = e.before ++ t ∧ Reclosed e.after e'.after := by
  have hinserted := h.inserted hmode hplaced
  exact ⟨hinserted.before, hinserted.after⟩

/-- The editor with a brace typed and suggestions open, and its session. -/
def bracedEditor : Editor := (behind braceEvents markedSession markedEditor).1

def bracedSession : Session := (behind braceEvents markedSession markedEditor).2

/-- With the suggestions open: a character that narrows them, the closing brace, which is stepped
over, and a quote, which brings another one. -/
theorem typed_before_suggesting :
    bracedEditor.popup.isSome = true ∧
      (presses (80, 24) ['b', '}', '"'] bracedEditor bracedSession).1.before =
        bracedEditor.before ++ ['b', '}', '"'] ∧
      bracedEditor.after = ['}'] ∧
      (presses (80, 24) ['b', '}', '"'] bracedEditor bracedSession).1.after = ['"'] ∧
      Reclosed bracedEditor.after
        (presses (80, 24) ['b', '}', '"'] bracedEditor bracedSession).1.after := by
  have hbraced : bracedEditor.mode = .insert ∧ bracedEditor.ended = false ∧
      CaretInText bracedEditor ∧ bracedEditor.popup.isSome = true ∧ bracedEditor.after = ['}'] ∧
      (presses (80, 24) ['b', '}', '"'] bracedEditor bracedSession).1.after = ['"'] := by
    decide +kernel
  obtain ⟨hmode, hopen, hplaced, hpopup, hafter, hafter'⟩ := hbraced
  obtain ⟨hbefore, hreclosed⟩ := typed_before hmode hplaced
    (typed_presses hmode hopen (80, 24) ['b', '}', '"'] bracedSession)
  exact ⟨hpopup, hbefore, hafter, hafter', hreclosed⟩

end MarkupDesk.Editor
