/-
`Proofs/Editor/Stroke.lean` -- what a key or a command can do.

There are some thirty keys and commands, and hardly anything that is said of them depends on
which of them it was. So they are told apart here, once for each function that takes a key, and
what is left are the few things that can come of it:

* a key for the text moves the caret within it, puts another text in its place, or begins a
  command (`Stroke`); the keys that a popup takes do one of the first two as well, unless they
  choose from it (`popupKey?_cases`);
* a command, and a key with the control key, runs one errand and does nothing else
  (`execute_of_errand`, `controlKey_of_errand`), or has nothing to do with files (`Told`,
  `controlKey_of_none`);
* the other keys of a command line and of the list of drafts change what is typed, what is chosen
  and the mode (`commandKey_of_ne_enter`, `pickerKey_of_none`).

What a key leaves alone, and that it leaves the caret in the text, is proved from these cases
where it is needed. A key or a command more in the program is a case more in one lemma of this
module.
-/
import MarkupDesk.Editor.Keys
import MarkupDesk.Proofs.Editing.Lines
import MarkupDesk.Proofs.Editing.Pairs
import MarkupDesk.Proofs.Editor.Errand

set_option autoImplicit false

namespace MarkupDesk.Editor

open Drafts (Content)

variable {e e' : Editor} {s : Session} {ticks : Nat} {code : KeyCode} {key : Key}
  {popup : Popup} {errand : Errand} {command : Command}

/-! ## 1. Keys for the text -/

/-- What can come of a key that is for the text or taken by a popup. The popup may be another one
in each case; what it is then is said where it matters. -/
inductive Stroke (ticks : Nat) (code : KeyCode) (e : Editor) : Editor → Prop where
  /-- The caret is moved, and does not leave the text. -/
  | moved (caret : Editing.Caret) (popup : Option Popup)
    (hplace : e.caret.place ≤ e.source.length → caret.place ≤ e.source.length) :
    Stroke ticks code e { e with caret := caret, popup := popup }
  /-- There is another text. -/
  | replaced (text : Text) (place : Nat) (popup : Option Popup) :
    Stroke ticks code e { e.replaceSource ticks text place with popup := popup }
  /-- A command is begun, which is nothing to make suggestions for. -/
  | begun (popup : Option Popup) (hcode : suggestsAfter code = false) :
    Stroke ticks code e { e with mode := .command, command := [], popup := popup }

namespace Stroke

/-- A key that does nothing moves the caret to where it is. -/
theorem refl (ticks : Nat) (code : KeyCode) (e : Editor) : Stroke ticks code e e :=
  .moved e.caret e.popup id

/-- Whether suggestions are shown behind a key makes no difference to what the key has
done. -/
theorem withPopup (h : Stroke ticks code e e') (popup : Option Popup) :
    Stroke ticks code e { e' with popup := popup } := by
  cases h with
  | moved caret _ hplace => exact .moved caret popup hplace
  | replaced text place _ => exact .replaced text place popup
  | begun _ hcode => exact .begun popup hcode

/-- Where suggestions are made afterwards, the mode is what it was. -/
theorem mode_eq (h : Stroke ticks code e e') (hsuggests : suggestsAfter code = true) :
    e'.mode = e.mode := by
  cases h with
  | moved | replaced => rfl
  | begun _ hcode => exact absurd (hsuggests.symm.trans hcode) Bool.noConfusion

/-- No key for the text ends the editor. -/
theorem ended_eq (h : Stroke ticks code e e') : e'.ended = e.ended := by
  cases h <;> rfl

end Stroke

/-- A text that is put in the place of another one is one of the three; deletions, insertions
and pairs are all of this form. -/
theorem replaceSource_stroke (ticks : Nat) (code : KeyCode) (text : Text) (place : Nat)
    (e : Editor) : Stroke ticks code e (e.replaceSource ticks text place) :=
  .replaced text place e.popup

/-- Stepping over a closing character is a motion: the text is none the longer for it. -/
theorem type_stroke (ticks : Nat) (code : KeyCode) (c : Char) (e : Editor) :
    Stroke ticks code e (e.type ticks c) := by
  unfold type
  split
  next edit hedit =>
    by_cases hsame : edit.text.byteLength = e.source.byteLength
    · rw [if_pos hsame]
      exact .moved _ e.popup fun _ => Editing.selectionEnd_le_of_autoPair? hedit hsame
    · rw [if_neg hsame]
      exact replaceSource_stroke ticks code _ _ e
  next => exact replaceSource_stroke ticks code _ _ e

/-- To delete backwards replaces the text, or does nothing at its start. -/
theorem backspace_stroke (ticks : Nat) (code : KeyCode) (e : Editor) :
    Stroke ticks code e (e.backspace ticks) := by
  unfold backspace
  simp only
  split
  · exact .refl ticks code e
  · exact replaceSource_stroke ticks code _ _ e

/-- To delete forwards replaces it, or does nothing at its end. -/
theorem delete_stroke (ticks : Nat) (code : KeyCode) (e : Editor) :
    Stroke ticks code e (e.delete ticks) := by
  unfold Editor.delete
  simp only
  split
  · exact .refl ticks code e
  · exact replaceSource_stroke ticks code _ _ e

/-- **A key for the text.** A motion between lines ends within the line that it goes to, whatever
column it aims at. -/
theorem textKey_stroke (ticks rows : Nat) (code : KeyCode) (e : Editor) :
    Stroke ticks code e (e.textKey ticks rows code) := by
  cases code with
  | left => exact .moved _ e.popup Editing.Caret.place_left_le
  | right => exact .moved _ e.popup Editing.Caret.place_right_le
  | up => exact .moved _ e.popup Editing.Caret.place_up_le
  | down => exact .moved _ e.popup Editing.Caret.place_down_le
  | pageUp => exact .moved _ e.popup fun _ => Editing.Caret.place_toLine_le _ _ _
  | pageDown => exact .moved _ e.popup fun _ => Editing.Caret.place_toLine_le _ _ _
  | home => exact .moved _ e.popup fun _ => Editing.Caret.place_home_le _ _
  | lineEnd => exact .moved _ e.popup fun _ => Editing.Caret.place_lineEnd_le _ _
  | backspace => exact backspace_stroke ticks _ e
  | delete => exact delete_stroke ticks _ e
  -- both put in a text of their own, without a partner
  | enter | tab => exact replaceSource_stroke ticks _ _ _ e
  | char c => exact type_stroke ticks _ c e
  | escape => exact .begun e.popup rfl
  | other => exact .refl ticks _ e

/-- A key without control that the popup does not take: a key for the text, and a look for
suggestions. -/
theorem plainKey_stroke (ticks rows : Nat) (code : KeyCode) (e : Editor) :
    Stroke ticks code e (e.plainKey ticks rows code) := by
  have htext := textKey_stroke ticks rows code e
  unfold plainKey
  simp only
  split
  · exact htext.withPopup _
  · exact htext.withPopup none

/-! ## 2. Keys for the popup -/

/-- Whatever becomes of the chosen key, the popup is closed. -/
theorem acceptKey_popup (ticks : Nat) (popup : Popup) (e : Editor) :
    (e.acceptKey ticks popup).popup = none := by
  unfold acceptKey
  simp only
  split
  · rfl
  split <;> rfl

/-- Accepting a key of the popup replaces the text, or does nothing where the key is not
there. -/
theorem acceptKey_stroke (ticks : Nat) (code : KeyCode) (popup : Popup) (e : Editor) :
    Stroke ticks code e (e.acceptKey ticks popup) := by
  have hclosed : Stroke ticks code e e.closePopup := (Stroke.refl ticks code e).withPopup none
  unfold acceptKey
  simp only
  split
  · exact hclosed
  split
  · exact hclosed
  · exact .replaced _ _ none

/-- **A key that the popup takes** chooses another of its suggestions, and of those there are as
many as before, or it closes the popup. -/
theorem popupKey?_cases (h : e.popupKey? ticks code popup = some e') :
    (∃ active, (popup.active < popup.keys.length → active < popup.keys.length) ∧
        e' = { e with popup := some { popup with active := active } }) ∨
      e'.popup = none ∧ Stroke ticks code e e' := by
  cases code with
  | down =>
    refine .inl ⟨min (popup.active + 1) (popup.keys.length - 1), fun hactive => ?_,
      (Option.some.inj h).symm⟩
    omega
  | up =>
    refine .inl ⟨popup.active - 1, fun hactive => ?_, (Option.some.inj h).symm⟩
    omega
  | escape =>
    obtain rfl := Option.some.inj h
    exact .inr ⟨rfl, (Stroke.refl ticks _ e).withPopup none⟩
  -- accepting closes the popup, and what it writes is a stroke as typing would be
  | enter | tab =>
    obtain rfl := Option.some.inj h
    exact .inr ⟨acceptKey_popup ticks popup e, acceptKey_stroke ticks _ popup e⟩
  | _ => cases h

/-- So every key that the popup takes is a stroke; which of its keys it was is not asked any
more. -/
theorem popupKey?_stroke (h : e.popupKey? ticks code popup = some e') : Stroke ticks code e e' := by
  rcases popupKey?_cases h with ⟨active, -, rfl⟩ | ⟨-, hstroke⟩
  · exact (Stroke.refl ticks code e).withPopup _
  · exact hstroke

/-! ## 3. Insert mode -/

/-- The errand of a key with the control key. -/
def controlErrand? : KeyCode → Option Errand
  | .char 's' => some .save
  | .char 't' => some .theme
  | .char 'r' => some .reference
  | .char 'd' => some .list
  | .char 'e' => some (.page ['.'])
  | _ => none

/-- Five keys with control run an errand. -/
theorem controlKey_of_errand (h : controlErrand? code = some errand) :
    e.controlKey code = errand.run e := by
  unfold controlErrand? at h
  split at h
  · exact Option.some.inj h ▸ rfl
  · exact Option.some.inj h ▸ rfl
  · exact Option.some.inj h ▸ rfl
  · exact Option.some.inj h ▸ rfl
  · exact Option.some.inj h ▸ rfl
  · cases h

/-- With the control key there is nothing but errands and the end. -/
theorem controlKey_of_none (h : controlErrand? code = none) (e : Editor) :
    ∃ closed, e.controlKey code = pure { e with closed := closed } := by
  unfold controlErrand? at h
  unfold controlKey
  split
  · exact ⟨true, rfl⟩
  · cases h
  · cases h
  · cases h
  · cases h
  · cases h
  · exact ⟨e.closed, rfl⟩

/-- A key in insert mode is offered to the popup first. Then it counts whether control is
held. -/
theorem insertKey_run (rows : Nat) (key : Key) (e : Editor) (s : Session) :
    (e.insertKey rows key).run s =
      StateT.run (match e.popup.bind fun popup => e.popupKey? s.ticks key.code popup with
        | some e' => (pure e' : StateM Session Editor)
        | none =>
          if key.control then e.controlKey key.code
          else pure (e.plainKey s.ticks rows key.code)) s := rfl

/-- **A key in insert mode** is taken by the popup if that has a use for it, and else it is one
with the control key or one for the text. -/
theorem insertKey_cases (rows : Nat) (key : Key) (e : Editor) (s : Session) :
    (∃ popup e', e.popup = some popup ∧ e.popupKey? s.ticks key.code popup = some e' ∧
        (e.insertKey rows key).run s = (e', s)) ∨
      (e.popup.bind fun popup => e.popupKey? s.ticks key.code popup) = none ∧
        ((key.control = true ∧ (e.insertKey rows key).run s = (e.controlKey key.code).run s) ∨
          (key.control = false ∧
            (e.insertKey rows key).run s = (e.plainKey s.ticks rows key.code, s))) := by
  rw [insertKey_run]
  cases htaken : (e.popup.bind fun popup => e.popupKey? s.ticks key.code popup) with
  | some e' =>
    obtain ⟨popup, hpopup, hkey⟩ := Option.bind_eq_some_iff.1 htaken
    exact .inl ⟨popup, e', hpopup, hkey, rfl⟩
  -- what the popup passes on goes by the control bit alone
  | none =>
    refine .inr ⟨rfl, ?_⟩
    cases hcontrol : key.control with
    | true => exact .inl ⟨rfl, rfl⟩
    | false => exact .inr ⟨rfl, rfl⟩

/-! ## 4. Commands -/

/-- The errand of a command; `asked` tells whether a question to delete is in force. -/
def Command.errand? (asked : Bool) : Command → Option Errand
  | .save => some .save
  | .newDraft name => some (.newDraft name)
  | .saveAs name => some (.saveAs name)
  | .delete => if asked then some .delete else none
  | .drafts => some .list
  | .writePage directory => some (.page directory)
  | .preset id => some (.preset id)
  | .theme => some .theme
  | .reference => some .reference
  | _ => none

/-- Only a question that is in force makes a deletion of a command. -/
theorem Command.errand?_delete {asked : Bool} (h : Command.delete.errand? asked = some errand) :
    asked = true ∧ errand = .delete := by
  cases asked with
  | true => exact ⟨rfl, (Option.some.inj h).symm⟩
  | false => cases h

/-- **A command with an errand** runs it when the question to delete is put out of force. That is
so of a deletion, too, which answers the question before it does anything. -/
theorem execute_of_errand (h : command.errand? e.deleteAsked = some errand) :
    e.execute command = errand.run { e with deleteAsked := false } := by
  cases command with
  -- only an answered question makes an errand of the delete command
  | delete =>
    obtain ⟨hasked, rfl⟩ := Command.errand?_delete h
    unfold execute confirmDelete
    simp only [hasked, Bool.true_and]
    rfl
  | save | newDraft | saveAs | drafts | writePage | preset | theme | reference =>
    obtain rfl := Option.some.inj h
    unfold execute
    simp only [Command.keepsQuestion, Bool.and_false]
    rfl
  | _ => cases h

/-- What can come of a command that runs no errand. -/
inductive Told (ticks : Nat) (command : Command) (e : Editor) : Editor → Prop where
  /-- Something is said, the editor is closed, or a question is asked. -/
  | said (notice : Option Notice) (closed asked : Bool)
    (hasked : asked = true → command = .askDelete) :
    Told ticks command e { e with notice := notice, closed := closed, deleteAsked := asked }
  /-- The page gets another title or file name, and keeps its text. -/
  | named (content : Content) (hsource : content.source = e.source) :
    Told ticks command e (markChanged ticks { e with content := content, deleteAsked := false })

/-- **A command without an errand.** A deletion that was not asked for is one. -/
theorem execute_of_none (h : command.errand? e.deleteAsked = none) :
    ∃ e', (e.execute command).run s = (e', s) ∧ Told s.ticks command e e' := by
  -- the question is put out of force by every command that does not have to do with it
  have hno : ∀ {P : Prop}, (e.deleteAsked && false) = true → P := fun hasked => by simp at hasked
  cases command with
  | nothing => exact ⟨_, rfl, .said e.notice e.closed _ fun hasked => hno hasked⟩
  | quit => exact ⟨_, rfl, .said e.notice true _ fun hasked => hno hasked⟩
  | unknown name =>
    exact ⟨_, rfl, .said (some (.unknownCommand name)) e.closed _ fun hasked => hno hasked⟩
  | askDelete => exact ⟨_, rfl, .said (some (.askDelete e.draft.name)) e.closed true fun _ => rfl⟩
  | delete =>
    have hnot : e.deleteAsked = false := by
      cases hasked : e.deleteAsked with
      | false => rfl
      | true => rw [hasked] at h; cases h
    refine ⟨_, ?_, .said (some .deleteNotAsked) e.closed false Bool.noConfusion⟩
    unfold execute confirmDelete
    simp only [hnot, Bool.false_and]
    rfl
  | title title =>
    refine ⟨_, ?_, .named { e.content with title := title } rfl⟩
    unfold execute
    simp only [Command.keepsQuestion, Bool.and_false]
    rfl
  | filename name =>
    refine ⟨_, ?_, .named { e.content with filename := name } rfl⟩
    unfold execute
    simp only [Command.keepsQuestion, Bool.and_false]
    rfl
  | _ => cases h

/-- Enter gives the command that was typed, and the line is cleared before it is executed. -/
theorem commandKey_enter (henter : key.code = .enter) (e : Editor) :
    e.commandKey key =
      execute (.ofText (Text.trim e.command)) { e with mode := .insert, command := [] } := by
  unfold commandKey
  rw [henter]

/-- The keys that write a command leave everything else alone. -/
theorem commandKey_of_ne_enter (henter : key.code ≠ .enter) (e : Editor) :
    ∃ mode command, (mode = .command → e.mode = .command) ∧
      e.commandKey key = pure { e with mode := mode, command := command } := by
  unfold commandKey
  split
  · exact ⟨.insert, [], Mode.noConfusion, rfl⟩
  next heq => exact absurd heq henter
  · exact ⟨e.mode, _, id, rfl⟩
  · -- a control character is not typed into the command line
    by_cases hcontrol : key.control = true
    · simp only [hcontrol]
      exact ⟨e.mode, e.command, id, rfl⟩
    · simp only [hcontrol]
      exact ⟨e.mode, _, id, rfl⟩
  · exact ⟨e.mode, e.command, id, rfl⟩

/-! ## 5. The list of drafts -/

/-- The key that chooses a draft opens it. -/
theorem pickerKey_of_some {summary : Drafts.Summary} (henter : key.code = .enter)
    (h : e.listed[e.selected]? = some summary) (s : Session) :
    (e.pickerKey key).run s =
      ({ ((Errand.openDraft summary.id).run e |>.run s).1 with mode := .insert },
        ((Errand.openDraft summary.id).run e |>.run s).2) := by
  have hlisted : ¬ e.listed.isEmpty = true := by
    rw [List.isEmpty_iff]
    intro hempty
    rw [hempty] at h
    cases h
  unfold pickerKey
  rw [if_neg hlisted, henter]
  unfold acceptDraft
  rw [h]
  rfl

/-- The other keys choose another draft of the list, or leave it. -/
theorem pickerKey_of_none (h : key.code = .enter → e.listed[e.selected]? = none) :
    ∃ mode selected, (mode = .command → e.mode = .command) ∧
      (e.selected < e.listed.length → selected < e.listed.length) ∧
      e.pickerKey key = pure { e with mode := mode, selected := selected } := by
  unfold pickerKey
  split
  · exact ⟨.insert, e.selected, Mode.noConfusion, id, rfl⟩
  split
  · exact ⟨.insert, e.selected, Mode.noConfusion, id, rfl⟩
  · exact ⟨e.mode, e.selected - 1, id, Nat.lt_of_le_of_lt (Nat.sub_le _ _), rfl⟩
  · unfold selectNext
    split
    next hnext => exact ⟨e.mode, e.selected + 1, id, fun _ => hnext, rfl⟩
    next => exact ⟨e.mode, e.selected, id, id, rfl⟩
  -- enter with nothing selected only leaves the list
  next henter =>
    unfold acceptDraft
    rw [h henter]
    exact ⟨.insert, e.selected, Mode.noConfusion, id, rfl⟩
  · exact ⟨e.mode, e.selected, id, id, rfl⟩

/-- **A key in the list** opens the chosen draft, or it changes at most the mode and what is
chosen. -/
theorem pickerKey_cases (key : Key) (e : Editor) (s : Session) :
    (∃ summary, key.code = .enter ∧ e.listed[e.selected]? = some summary ∧
        (e.pickerKey key).run s =
          ({ ((Errand.openDraft summary.id).run e |>.run s).1 with mode := .insert },
            ((Errand.openDraft summary.id).run e |>.run s).2)) ∨
      ∃ mode selected, (mode = .command → e.mode = .command) ∧
        (e.selected < e.listed.length → selected < e.listed.length) ∧
        (e.pickerKey key).run s = ({ e with mode := mode, selected := selected }, s) := by
  by_cases hchosen : key.code = .enter ∧ (e.listed[e.selected]?).isSome = true
  · obtain ⟨henter, hsome⟩ := hchosen
    obtain ⟨summary, hsummary⟩ := Option.isSome_iff_exists.1 hsome
    exact .inl ⟨summary, henter, hsummary, pickerKey_of_some henter hsummary s⟩
  · have hnone : key.code = .enter → e.listed[e.selected]? = none := fun henter =>
      Option.not_isSome_iff_eq_none.1 fun hsome => hchosen ⟨henter, hsome⟩
    obtain ⟨mode, selected, hmode, hselected, hrun⟩ := pickerKey_of_none hnone
    exact .inr ⟨mode, selected, hmode, hselected, by rw [hrun, Session.run_pure]⟩

end MarkupDesk.Editor
