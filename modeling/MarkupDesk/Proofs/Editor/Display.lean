/-
`Proofs/Editor/Display.lean` -- what is left of what is shown.

Two things on the screen are kept beside what they are made from: the popup, which is made from
the text, the caret and the keys of the preset (`Prompt`), and the lines of the page, which are
made from the preset and the content (`Drawing`). Whatever does not edit the text leaves the
first of them as it was or takes the popup away, and it leaves the second as it was or says that
the page has to be made anew. That is `Redrawn`, and it holds of every errand, every command and
every key outside of insert mode.
-/
import MarkupDesk.Proofs.Editor.Event

set_option autoImplicit false

namespace MarkupDesk.Editor

open Drafts (Content Draft StoreError)

/-- The popup and what it is made from. -/
structure Prompt where
  keys : List Text
  text : Text
  place : Nat
  popup : Option Popup

def prompt (e : Editor) : Prompt :=
  ⟨e.preset.rules.markerKeys, e.source, e.caret.place, e.popup⟩

/-- The lines of the page and what they are made from. -/
structure Drawing where
  preset : Preset
  content : Content
  preview : List Text

def drawing (e : Editor) : Drawing := ⟨e.preset, e.content, e.preview⟩

/-- The lines of the page are taken for right only where they were before, and then they are what
they were, and so is what they are made from. -/
def KeepsDrawing (e e' : Editor) : Prop :=
  e'.previewStale = false → e.previewStale = false ∧ e'.drawing = e.drawing

/-- The popup is gone or as it was, the drawing is kept, and no command is begun. -/
structure Redrawn (e e' : Editor) : Prop where
  prompt : e'.prompt = e.prompt ∨ e'.popup = none
  drawing : KeepsDrawing e e'
  mode : e'.mode = .command → e.mode = .command

variable {e e' e'' : Editor} {s : Session}

namespace KeepsDrawing

/-- What leaves the page's lines, and what they are made of, leaves the drawing. -/
theorem of_same (hdrawing : e'.drawing = e.drawing) (hstale : e'.previewStale = e.previewStale) :
    KeepsDrawing e e' := fun hfresh => ⟨hstale ▸ hfresh, hdrawing⟩

/-- What says that the page has to be made anew owes nothing more. -/
theorem of_stale (hstale : e'.previewStale = true) : KeepsDrawing e e' :=
  fun hfresh => absurd (hstale.symm.trans hfresh) Bool.noConfusion

/-- One after the other: if the page is fresh in the end, it was fresh in between. -/
theorem trans (hfirst : KeepsDrawing e e') (hlast : KeepsDrawing e' e'') : KeepsDrawing e e'' := by
  intro hfresh
  obtain ⟨hbetween, hsame⟩ := hlast hfresh
  obtain ⟨hbefore, hsame'⟩ := hfirst hbetween
  exact ⟨hbefore, hsame.trans hsame'⟩

end KeepsDrawing

namespace Redrawn

/-- Nothing of it has changed. -/
theorem of_same (hprompt : e'.prompt = e.prompt) (hdrawing : e'.drawing = e.drawing)
    (hstale : e'.previewStale = e.previewStale) (hmode : e'.mode = .command → e.mode = .command) :
    Redrawn e e' :=
  ⟨.inl hprompt, .of_same hdrawing hstale, hmode⟩

/-- The page has to be made anew. -/
theorem of_stale (hprompt : e'.prompt = e.prompt ∨ e'.popup = none)
    (hstale : e'.previewStale = true) (hmode : e'.mode = .command → e.mode = .command) :
    Redrawn e e' :=
  ⟨hprompt, .of_stale hstale, hmode⟩

/-- Doing nothing is a redrawing. -/
theorem refl (e : Editor) : Redrawn e e := .of_same rfl rfl rfl id

/-- And so are two redrawings, one after the other. -/
theorem trans (hfirst : Redrawn e e') (hlast : Redrawn e' e'') : Redrawn e e'' := by
  refine ⟨?_, hfirst.drawing.trans hlast.drawing, fun hmode => hfirst.mode (hlast.mode hmode)⟩
  rcases hlast.prompt with hsame | hgone
  · rcases hfirst.prompt with hsame' | hgone'
    · exact .inl (hsame.trans hsame')
    · exact .inr ((congrArg Prompt.popup hsame).trans hgone')
  · exact .inr hgone

end Redrawn

/-! ## 1. Errands -/

/-- **An errand** leaves what is shown, or leaves nothing of it: a draft is shown without a popup,
and its page is yet to be made. -/
theorem Ran.redrawn (h : Ran e e') : Redrawn e e' := by
  cases h with
  | shown => exact .of_stale (.inr rfl) rfl id
  | listed => exact .of_same rfl rfl rfl Mode.noConfusion
  | kept _ _ _ _ _ _ _ stale hstale =>
    rcases hstale with rfl | rfl
    · exact .of_same rfl rfl rfl id
    · exact .of_stale (.inl rfl) rfl id

/-! ## 2. Commands -/

/-- **A command** does so, too. A title is no part of what a popup is made from. -/
theorem execute_redrawn (command : Command) (e : Editor) (s : Session) :
    Redrawn e ((e.execute command).run s).1 := by
  cases herrand : command.errand? e.deleteAsked with
  | some errand =>
    rw [execute_of_errand herrand]
    -- the question is answered before the errand is done, and that is not drawn
    have hanswered : Redrawn e { e with deleteAsked := false } := .of_same rfl rfl rfl id
    exact hanswered.trans (errand.ran _ s).redrawn
  | none =>
    obtain ⟨e', hrun, htold⟩ := execute_of_none (s := s) herrand
    rw [hrun]
    cases htold with
    | said => exact .of_same rfl rfl rfl id
    | named content hsource =>
      have hprompt : Prompt.mk e.preset.rules.markerKeys content.source e.caret.place e.popup =
          e.prompt := by
        rw [hsource]
        rfl
      exact .of_stale (.inl hprompt) rfl id

/-! ## 3. Keys -/

/-- A control key runs an errand, or does nothing. -/
theorem controlKey_redrawn (code : KeyCode) (e : Editor) (s : Session) :
    Redrawn e ((e.controlKey code).run s).1 := by
  cases herrand : controlErrand? code with
  | some errand =>
    rw [controlKey_of_errand herrand]
    exact (errand.ran e s).redrawn
  | none =>
    obtain ⟨closed, hrun⟩ := controlKey_of_none herrand e
    rw [hrun]
    exact .of_same rfl rfl rfl id

/-- The mode is left before the command is carried out. -/
theorem commandKey_redrawn (key : Key) (e : Editor) (s : Session) :
    Redrawn e ((e.commandKey key).run s).1 := by
  by_cases henter : key.code = .enter
  · rw [commandKey_enter henter]
    have hleft : Redrawn e { e with mode := .insert, command := [] } :=
      .of_same rfl rfl rfl Mode.noConfusion
    exact hleft.trans (execute_redrawn _ _ s)
  · obtain ⟨mode, command, hmode, hrun⟩ := commandKey_of_ne_enter henter e
    rw [hrun]
    exact .of_same rfl rfl rfl hmode

/-- A key in the picker moves the choice, which is on neither of the two, or opens a draft. -/
theorem pickerKey_redrawn (key : Key) (e : Editor) (s : Session) :
    Redrawn e ((e.pickerKey key).run s).1 := by
  rcases pickerKey_cases key e s with ⟨summary, -, -, hrun⟩ | ⟨mode, selected, hmode, -, hrun⟩
  · rw [hrun]
    exact ((Errand.openDraft summary.id).ran e s).redrawn.trans
      (.of_same rfl rfl rfl Mode.noConfusion)
  · rw [hrun]
    exact .of_same rfl rfl rfl hmode

end MarkupDesk.Editor
