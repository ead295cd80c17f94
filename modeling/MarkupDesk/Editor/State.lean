/-
`Editor/State.lean` -- the state of the editor.

The editor has one draft open. `content` is what is being edited, `draft` is the
document as it was last read or written; `dirty` says that they may differ. A change
makes the content dirty and sets the time of the next save (`markChanged`); showing
another draft replaces the content and leaves nothing of the old one (`showDraft`).
-/
import MarkupDesk.Editing.Caret
import MarkupDesk.Editing.Completion
import MarkupDesk.Editor.Notice
import MarkupDesk.Page
import MarkupDesk.Preset.Catalog

set_option autoImplicit false

namespace MarkupDesk

open Calendar (Timestamp)
open Drafts (Content Draft Store StoreError Summary)
open Editing (Caret Edit)

namespace Editor

/-- What keys are taken for: text, a command, or a choice from the list of drafts. -/
inductive Mode where
  | insert
  | command
  | picker
  deriving DecidableEq, Repr

/-- What is shown about saving. -/
inductive SaveMark where
  /-- Nothing was changed since the draft was opened. -/
  | idle
  | dirty
  | saved (time : Timestamp)
  deriving DecidableEq, Repr

/-- The text of the mark. -/
def SaveMark.label : SaveMark → Text
  | .idle => "Saved"
  | .dirty => "Editing…"
  | .saved time => "Saved ✓ " ++ time.clockText

/-- The suggested marker keys, the place of the `{` they belong to, and which of them is
chosen. -/
structure Popup where
  keys : List Text
  active : Nat
  brace : Nat
  deriving DecidableEq, Repr

/-- The popup with the key below chosen, if there is one. -/
def Popup.next (popup : Popup) : Popup :=
  { popup with active := min (popup.active + 1) (popup.keys.length - 1) }

/-- The popup with the key above chosen, if there is one. -/
def Popup.previous (popup : Popup) : Popup := { popup with active := popup.active - 1 }

/-- Why the editor cannot start. -/
inductive StartError where
  | noPresets
  | drafts (cause : StoreError)
  deriving DecidableEq, Repr

/-- The error as it is told. -/
def StartError.failure : StartError → Shell.Failure
  | .noPresets => .plain "No presets available"
  | .drafts cause => cause.failure

end Editor

open Editor (Mode Notice Popup SaveMark StartError)

/-- The state of the editor. -/
structure Editor where
  settings : Settings
  catalog : Catalog
  preset : Preset
  store : Store
  /-- The open draft as it was last read or written. -/
  draft : Draft
  /-- What is being edited. -/
  content : Content
  caret : Caret
  /-- The first line that the editor shows. -/
  editorScroll : Nat
  /-- The first row that the preview shows. -/
  previewScroll : Nat
  /-- The lines of the page. -/
  preview : List Text
  /-- Has the page to be made anew? -/
  previewStale : Bool
  /-- Was the content changed since it was last read or written? -/
  dirty : Bool
  mark : SaveMark
  /-- When the content is to be saved. -/
  deadline : Option Nat
  mode : Mode
  /-- The command as far as it is typed. -/
  command : Text
  notice : Option Notice
  popup : Option Popup
  /-- The drafts in the picker. -/
  listed : List Summary
  selected : Nat
  /-- Was a question asked that allows to delete? -/
  deleteAsked : Bool
  closed : Bool
  /-- The panic that has ended the program, if one has. -/
  panicked : Option Panic
  deriving Repr

namespace Editor

/-- The editor with a draft that was just read. -/
def ofDraft (settings : Settings) (catalog : Catalog) (preset : Preset) (store : Store)
    (draft : Draft) : Editor where
  settings := settings
  catalog := catalog
  preset := preset
  store := store
  draft := draft
  content := draft.content
  caret := .ofPlace 0
  editorScroll := 0
  previewScroll := 0
  preview := []
  previewStale := true
  dirty := false
  mark := .idle
  deadline := none
  mode := .insert
  command := []
  notice := none
  popup := none
  listed := []
  selected := 0
  deleteAsked := false
  closed := false
  panicked := none

/-- Starts the editor with the asked preset, or the one of the settings, or the first
one, and the draft of it that was opened last. -/
def start (settings : Settings) (catalog : Catalog) (requested : Option Text) :
    Task StartError Editor := do
  match catalog.select? (requested.or settings.defaultPreset) with
  | none => throw .noPresets
  | some preset =>
    let store ← Task.mapError .drafts (Store.openFor settings.draftRoot preset)
    let draft ← Task.mapError .drafts store.loadActive
    return ofDraft settings catalog preset store draft

/-- Is no key taken any more, be it that the editor was closed or that the program has panicked? -/
def ended (e : Editor) : Bool := e.closed || e.panicked.isSome

/-- The text that is being edited. -/
def source (e : Editor) : Text := e.content.source

/-- Says something. -/
def say (notice : Notice) (e : Editor) : Editor := { e with notice := some notice }

/-! ## 1. Changes -/

/-- The content was changed, at the given time. -/
def markChanged (ticks : Nat) (e : Editor) : Editor :=
  { e with
    dirty := true
    previewStale := true
    mark := .dirty
    deadline := some (ticks + e.settings.autosaveMillis) }

/-- Puts a text and a caret in the place of those there are. -/
def replaceSource (ticks : Nat) (text : Text) (place : Nat) (e : Editor) : Editor :=
  let content := { e.content with source := text }
  markChanged ticks { e with content := content, caret := .ofPlace (min place text.length) }

/-- Makes an edit. -/
def applyEdit (ticks : Nat) (edit : Edit) (e : Editor) : Editor :=
  e.replaceSource ticks edit.text edit.selectionEnd

/-- Inserts a text at the caret, which ends up behind it. -/
def insert (ticks : Nat) (t : Text) (e : Editor) : Editor :=
  let place := e.caret.place
  e.replaceSource ticks (e.source.take place ++ t ++ e.source.drop place) (place + t.length)

/-- Types a character, with what it brings or steps over. Stepping over a closing
character is no change. -/
def type (ticks : Nat) (c : Char) (e : Editor) : Editor :=
  match Editing.autoPair? e.source e.caret.place e.caret.place c with
  | some edit =>
    if edit.text.byteLength = e.source.byteLength then
      { e with caret := .ofPlace edit.selectionEnd }
    else e.applyEdit ticks edit
  | none => e.insert ticks [c]

/-- Removes the character before the caret. -/
def backspace (ticks : Nat) (e : Editor) : Editor :=
  let place := e.caret.place
  if place = 0 then e
  else e.replaceSource ticks (e.source.take (place - 1) ++ e.source.drop place) (place - 1)

/-- Removes the character behind the caret. -/
def delete (ticks : Nat) (e : Editor) : Editor :=
  let place := e.caret.place
  if e.source.length ≤ place then e
  else e.replaceSource ticks (e.source.take place ++ e.source.drop (place + 1)) place

/-- Gives the page another title. -/
def retitle (ticks : Nat) (title : Text) (e : Editor) : Editor :=
  markChanged ticks { e with content := { e.content with title := title } }

/-- Gives the page another file name. -/
def renameFile (ticks : Nat) (filename : Text) (e : Editor) : Editor :=
  markChanged ticks { e with content := { e.content with filename := filename } }

/-! ## 2. Suggestions -/

/-- Suggests the marker keys that fit what stands before the caret. -/
def refreshPopup (e : Editor) : Editor :=
  let keys := e.preset.rules.markerKeys
  let popup :=
    if keys.isEmpty then none
    else (Editing.suggest? e.source e.caret.place keys).map fun s => Popup.mk s.keys 0 s.brace
  { e with popup := popup }

/-- Takes the suggestions away. -/
def closePopup (e : Editor) : Editor := { e with popup := none }

/-- Puts the chosen key of a popup into the text. -/
def acceptKey (ticks : Nat) (popup : Popup) (e : Editor) : Editor :=
  let e := e.closePopup
  match popup.keys[popup.active]? with
  | none => e
  | some key =>
    match Editing.applySuggestion? e.source e.caret.place popup.brace key with
    | none => e
    | some edit => e.applyEdit ticks edit

/-! ## 3. Showing a draft -/

/-- Shows a draft that was just read, from its beginning. -/
def showDraft (draft : Draft) (e : Editor) : Editor :=
  { e with
    draft := draft
    content := draft.content
    mark := .idle
    caret := .ofPlace 0
    editorScroll := 0
    previewScroll := 0
    dirty := false
    previewStale := true
    popup := none
    deadline := none }

end Editor

end MarkupDesk
