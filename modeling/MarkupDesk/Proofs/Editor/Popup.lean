/-
`Proofs/Editor/Popup.lean` -- the popup is the one for the text as it is.

A popup is made for a text, a caret and the keys of a preset, and each of these may change
afterwards without a look at the popup. It is fresh in every run nevertheless (`Run.prompted`):
in insert mode every key makes it anew, chooses from it or takes it away, and everything else
leaves what it is made from alone or takes it away with it (`Redrawn`).

So the brace of a popup is where it says, and accepting a key puts the marker in the place of
just what was typed for it (`acceptKey_accepted`).
-/
import MarkupDesk.Proofs.Editing.Completion
import MarkupDesk.Proofs.Editor.Cursor
import MarkupDesk.Proofs.Editor.Display

set_option autoImplicit false

namespace MarkupDesk.Editor

open Editing (suggest? withoutCloser)

variable {e e' : Editor} {s : Session} {ticks : Nat} {popup : Popup} {rules : Rules}
  {log : List Step}

/-! ## 1. Fresh popups -/

/-- What the popup offers is what would be suggested now, and one of its keys is chosen. While a
command is typed there is no popup. -/
structure Prompted (e : Editor) : Prop where
  suggested : ∀ popup ∈ e.popup,
    suggest? e.source e.caret.place e.preset.rules.markerKeys = some ⟨popup.keys, popup.brace⟩
  active : ∀ popup ∈ e.popup, popup.active < popup.keys.length
  command : e.mode = .command → e.popup = none

namespace Prompted

/-- Where there is no popup there is nothing to keep fresh. -/
theorem of_none (h : e.popup = none) : Prompted e := by
  refine ⟨fun popup hpopup => ?_, fun popup hpopup => ?_, fun _ => h⟩
  · rw [h] at hpopup
    cases hpopup
  · rw [h] at hpopup
    cases hpopup

/-- A popup is as fresh as what it is made from. -/
theorem congr (h : Prompted e) (hprompt : e'.prompt = e.prompt)
    (hmode : e'.mode = .command → e.mode = .command) : Prompted e' := by
  obtain ⟨hkeys, htext, hplace, hpopup⟩ := Prompt.mk.inj hprompt
  refine ⟨?_, ?_, fun hcommand => hpopup.trans (h.command (hmode hcommand))⟩
  · rw [hpopup, htext, hplace, hkeys]
    exact h.suggested
  · rw [hpopup]
    exact h.active

/-- What redraws the screen keeps the popup fresh or takes it away. -/
theorem redrawn (h : Prompted e) (hredrawn : Redrawn e e') : Prompted e' := by
  rcases hredrawn.prompt with hsame | hgone
  · exact h.congr hsame hredrawn.mode
  · exact of_none hgone

end Prompted

/-- Suggestions that were just made are fresh. -/
theorem refreshPopup_prompted (hmode : e.mode ≠ .command) : Prompted e.refreshPopup := by
  by_cases hkeys : e.preset.rules.markerKeys.isEmpty = true
  · have hnone : e.refreshPopup.popup = none := if_pos hkeys
    exact .of_none hnone
  · have hmade : e.refreshPopup.popup =
        (suggest? e.source e.caret.place e.preset.rules.markerKeys).map
          fun s => Popup.mk s.keys 0 s.brace := if_neg hkeys
    have hpopup : ∀ popup ∈ e.refreshPopup.popup,
        suggest? e.source e.caret.place e.preset.rules.markerKeys = some ⟨popup.keys, popup.brace⟩ ∧
          popup.active = 0 := by
      intro popup hmem
      rw [hmade] at hmem
      obtain ⟨s, hs, rfl⟩ := Option.map_eq_some_iff.1 hmem
      exact ⟨hs, rfl⟩
    refine ⟨fun popup hmem => (hpopup popup hmem).1, fun popup hmem => ?_,
      fun hcommand => absurd hcommand hmode⟩
    obtain ⟨hsuggested, hactive⟩ := hpopup popup hmem
    -- the first key is chosen, and there is one
    obtain ⟨_, _, _, _, _, _, hkeys⟩ := Editing.suggest?_eq_some hsuggested
    rw [hactive]
    exact List.length_pos_iff.2 hkeys

/-! ## 2. Keys -/

/-- Another key of the same popup is chosen. -/
theorem Prompted.choose (h : Prompted e) (hpopup : e.popup = some popup) {active : Nat}
    (hactive : active < popup.keys.length) :
    Prompted { e with popup := some { popup with active := active } } := by
  refine ⟨fun other hother => ?_, fun other hother => ?_, fun hmode => ?_⟩
  · obtain rfl := Option.some.inj hother
    exact h.suggested popup hpopup
  · obtain rfl := Option.some.inj hother
    exact hactive
  · exact absurd (hpopup.symm.trans (h.command hmode)) (Option.some_ne_none popup)

/-- A key that the popup takes chooses in it, or closes it. -/
theorem popupKey?_prompted {code : KeyCode} (h : Prompted e) (hpopup : e.popup = some popup)
    (hkey : e.popupKey? ticks code popup = some e') : Prompted e' := by
  rcases popupKey?_cases hkey with ⟨active, hactive, rfl⟩ | ⟨hclosed, -⟩
  · exact h.choose hpopup (hactive (h.active popup hpopup))
  · exact .of_none hclosed

/-- Behind a key for the text suggestions are made, unless it cannot be followed by any. -/
theorem plainKey_prompted (hmode : e.mode = .insert) (ticks rows : Nat) (code : KeyCode) :
    Prompted (e.plainKey ticks rows code) := by
  unfold plainKey
  by_cases hsuggests : suggestsAfter code = true
  · rw [if_pos hsuggests]
    refine refreshPopup_prompted ?_
    rw [(textKey_stroke ticks rows code e).mode_eq hsuggests, hmode]
    exact Mode.noConfusion
  · rw [if_neg hsuggests]
    exact .of_none rfl

/-- In insert mode a key for the popup chooses, closes or accepts; one with control runs an
errand; any other one is followed by a new look for suggestions. -/
theorem insertKey_prompted (h : Prompted e) (hmode : e.mode = .insert) (rows : Nat) (key : Key) :
    Prompted ((e.insertKey rows key).run s).1 := by
  rcases insertKey_cases rows key e s with
    ⟨popup, e', hpopup, hkey, hrun⟩ | ⟨-, ⟨-, hrun⟩ | ⟨-, hrun⟩⟩
  · rw [hrun]
    exact popupKey?_prompted h hpopup hkey
  · rw [hrun]
    exact h.redrawn (controlKey_redrawn key.code e s)
  · rw [hrun]
    exact plainKey_prompted hmode _ rows key.code

/-! ## 3. Steps -/

/-- Drawing leaves the popup. -/
theorem prepare_prompted (h : Prompted e) (size : Nat × Nat) : Prompted (e.prepare size) := by
  obtain ⟨_, _, _, _, hprepared⟩ := exists_prepare_eq size e
  rw [hprepared]
  exact h.congr rfl id

/-- **A step keeps the popup fresh.** -/
theorem Event.prompted_run (event : Event) (h : Prompted e) (s : Session) :
    Prompted ((event.run e).run s).1 := by
  cases event with
  | prepare size => exact prepare_prompted h size
  | leave => exact h.redrawn (saveNow_ran e s).redrawn
  | command command => exact h.redrawn (execute_redrawn command e s)
  | autosave =>
    rw [Event.run, savePending_run]
    split
    · exact h.redrawn (saveNow_ran e s).redrawn
    · exact h
  | key rows key =>
    rw [run_key]
    split
    next hmode => exact insertKey_prompted h hmode rows key
    next => exact h.redrawn (commandKey_redrawn key e s)
    next => exact h.redrawn (pickerKey_redrawn key e s)

/-- **The popup is fresh in every run.** -/
theorem Run.prompted (h : Run rules log s e) : Prompted e := by
  induction h with
  | start _ hends =>
    obtain ⟨preset, _, -, -, he⟩ := start_ends hends
    rw [he]
    exact .of_none rfl
  | step _ _ event _ ih => exact event.prompted_run ih _
  | pass _ _ ih => exact ih

/-! ## 4. Accepting a key -/

/-- The chosen key was put into the text: the marker is in the place of what was typed for it,
from the brace to the caret, and of a closing brace behind the caret. -/
structure Accepted (popup : Popup) (e e' : Editor) : Prop where
  text : ∃ pre typed post key, popup.keys[popup.active]? = some key ∧
    e.source = pre ++ '{' :: typed ++ post ∧ pre.length = popup.brace ∧
    (pre ++ '{' :: typed).length = e.caret.place ∧
    e'.source = pre ++ '{' :: key ++ [':', '}'] ++ withoutCloser post ∧
    e'.caret.place = (pre ++ '{' :: key ++ [':']).length
  popup : e'.popup = none
  dirty : e'.dirty = true

/-- Accepting a key closes the popup and makes one edit. -/
theorem acceptKey_eq {key : Text} {edit : Editing.Edit} (hkey : popup.keys[popup.active]? = some key)
    (hedit : Editing.applySuggestion? e.source e.caret.place popup.brace key = some edit) :
    e.acceptKey ticks popup = e.closePopup.applyEdit ticks edit := by
  have hclosed : Editing.applySuggestion? e.closePopup.source e.closePopup.caret.place popup.brace
      key = some edit := hedit
  unfold acceptKey
  simp only [hkey, hclosed]

/-- **A fresh popup is accepted exactly.** -/
theorem acceptKey_accepted (h : Prompted e) (hplace : e.caret.place ≤ e.source.length)
    (hpopup : e.popup = some popup) : Accepted popup e (e.acceptKey ticks popup) := by
  obtain ⟨pre, typed, hbefore, hbrace, -, -, -⟩ :=
    Editing.suggest?_eq_some (h.suggested popup hpopup)
  obtain ⟨key, hkey⟩ : ∃ key, popup.keys[popup.active]? = some key :=
    ⟨_, List.getElem?_eq_getElem (h.active popup hpopup)⟩
  -- the text in front of the caret ends with what was typed
  have hsource : e.source = pre ++ '{' :: typed ++ e.source.drop e.caret.place := by
    rw [← hbefore, List.take_append_drop]
  have hcaret : (pre ++ '{' :: typed).length = e.caret.place := by
    rw [← hbefore, List.length_take, Nat.min_eq_left hplace]
  have hedit := Editing.applySuggestion?_eq pre ('{' :: typed) (e.source.drop e.caret.place) key
    (List.cons_ne_nil _ _)
  rw [← hsource, hcaret, hbrace] at hedit
  rw [acceptKey_eq hkey hedit]
  refine ⟨⟨pre, typed, _, key, hkey, hsource, hbrace, hcaret, rfl, ?_⟩, rfl, rfl⟩
  refine Nat.min_eq_left ?_
  simp only [Editing.Edit.caret, List.length_append, List.length_cons, List.length_nil]
  omega

/-- **The popup is never stale, and accepting it is exact.** Where suggestions are shown in a run,
whatever the surroundings do, they are those for the text, the caret and the preset as they are,
and one of them is chosen; no command is being typed then. In insert mode the key that accepts
puts just the chosen key into the text, and nothing is done to files. -/
theorem run_prompted (h : Run rules log s e) (hpopup : e.popup = some popup) :
    suggest? e.source e.caret.place e.preset.rules.markerKeys = some ⟨popup.keys, popup.brace⟩ ∧
      popup.active < popup.keys.length ∧ (e.mode = .insert ∨ e.mode = .picker) ∧
      (e.mode = .insert → ∀ rows key, key.code = .enter ∨ key.code = .tab →
        Accepted popup e ((e.handle rows key).run s).1 ∧ ((e.handle rows key).run s).2 = s) := by
  have hprompted := h.prompted
  refine ⟨hprompted.suggested popup hpopup, hprompted.active popup hpopup, ?_,
    fun hmode rows key hkey => ?_⟩
  -- the command line is entered without a popup and never gets one
  · cases hmode : e.mode with
    | insert => exact .inl rfl
    | picker => exact .inr rfl
    | command => exact absurd (hpopup.symm.trans (hprompted.command hmode)) (Option.some_ne_none popup)
  · -- the popup takes the key before the text does
    have htaken : (e.popup.bind fun popup => e.popupKey? s.ticks key.code popup) =
        some (e.acceptKey s.ticks popup) := by
      rw [hpopup]
      rcases hkey with henter | htab
      · rw [henter]
        rfl
      · rw [htab]
        rfl
    have hrun : (e.handle rows key).run s = (e.acceptKey s.ticks popup, s) := by
      unfold handle
      rw [hmode]
      simp only
      rw [insertKey_run, htaken]
      rfl
    rw [hrun]
    exact ⟨acceptKey_accepted hprompted h.cursor.place hpopup, rfl⟩

/-- A brace is typed. -/
def braceEvents : List Event := [.key 20 ⟨.char '{', false⟩]

/-- The marker that is suggested behind the brace is accepted. -/
theorem run_prompted_brace :
    ∃ popup, (behind braceEvents markedSession markedEditor).1.popup = some popup ∧
      popup.keys = ["b"] ∧
      Accepted popup (behind braceEvents markedSession markedEditor).1
        (((behind braceEvents markedSession markedEditor).1.handle 20 ⟨.tab, false⟩).run
          (behind braceEvents markedSession markedEditor).2).1 := by
  have hrun : Run (.alone firstHome) (steps braceEvents markedSession markedEditor ++ [])
      (behind braceEvents markedSession markedEditor).2
      (behind braceEvents markedSession markedEditor).1 :=
    Run.events (run_marked begins_empty) (by decide +kernel)
  have hpopup : (behind braceEvents markedSession markedEditor).1.popup = some ⟨["b"], 0, 0⟩ := by
    decide +kernel
  have hmode : (behind braceEvents markedSession markedEditor).1.mode = .insert := by decide +kernel
  obtain ⟨-, -, -, haccepted⟩ := run_prompted hrun hpopup
  exact ⟨_, hpopup, rfl, (haccepted hmode 20 ⟨.tab, false⟩ (.inr rfl)).1⟩

/-- A brace is typed, and the list of drafts is opened. -/
def listEvents : List Event := braceEvents ++ [.key 20 ⟨.char 'd', true⟩]

/-- The popup outlives the way into the list of drafts, and there the key that accepts is one for
the list. -/
theorem not_accepted_in_list :
    ¬ ∀ (rules : Rules) (log : List Step) (s : Session) (e : Editor) (popup : Popup),
      Run rules log s e → e.popup = some popup → ∀ rows key, key.code = .enter ∨ key.code = .tab →
        Accepted popup e ((e.handle rows key).run s).1 := by
  intro hclaim
  have hrun : Run (.alone firstHome) (steps listEvents markedSession markedEditor ++ [])
      (behind listEvents markedSession markedEditor).2
      (behind listEvents markedSession markedEditor).1 :=
    Run.events (run_marked begins_empty) (by decide +kernel)
  have hpopup : (behind listEvents markedSession markedEditor).1.popup = some ⟨["b"], 0, 0⟩ := by
    decide +kernel
  -- the list of drafts is open over the popup and takes the key, so the popup stays
  have hstill : (((behind listEvents markedSession markedEditor).1.handle 20 ⟨.tab, false⟩).run
      (behind listEvents markedSession markedEditor).2).1.popup = some ⟨["b"], 0, 0⟩ := by
    decide +kernel
  have haccepted := hclaim _ _ _ _ _ hrun hpopup 20 ⟨.tab, false⟩ (.inr rfl)
  rw [haccepted.popup] at hstill
  cases hstill

end MarkupDesk.Editor
