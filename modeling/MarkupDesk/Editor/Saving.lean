/-
`Editor/Saving.lean` -- the editor and its files.

What the editor does with the drafts, the settings and the exported page. An operation
that fails says so and leaves the content as it is; only one that succeeded shows
another draft. One that panics says nothing: the editor ends with it. `saveNow` comes before
the content is replaced by that of another draft, except where the content is what the new draft
is made of (`saveAs`) or the draft is deleted (`deleteCurrent`).
-/
import MarkupDesk.Editor.State

set_option autoImplicit false

namespace MarkupDesk.Editor

open Drafts (Draft Store StoreError)
open Settings (FileProblem)

/-! ## 1. Drafts -/

/-- Writes the content into its draft, if it was changed. A draft that is gone or cannot
be written leaves the content changed, and no further save is set. -/
def saveNow (e : Editor) : StateM Session Editor := do
  let e := { e with deadline := none }
  if !e.dirty then return e
  match ← (e.store.autosave e.draft.id e.content).run with
  | .ok (some draft) =>
    return { e with mark := .saved draft.updated, draft := draft, dirty := false }
  | .ok none => return e.say .draftGone
  | .error cause => return e.say (.saveFailed cause)

/-- Saves the content when it is time to. -/
def savePending (e : Editor) : StateM Session Editor := do
  match e.deadline with
  | none => return e
  | some deadline => if deadline ≤ (← get).ticks then e.saveNow else return e

/-- Shows the draft that an operation gave, or says why there is none. -/
def showResult (result : Except StoreError Draft) (done : Text → Notice) (e : Editor) : Editor :=
  match result with
  | .ok draft => (e.say (done draft.name)).showDraft draft
  | .error cause => e.say (.draftsFailed cause)

/-- Opens another draft. -/
def openDraft (id : Text) (e : Editor) : StateM Session Editor := do
  let e ← e.saveNow
  return e.showResult (← (e.store.load id).run) .opened

/-- Makes a new draft and opens it. -/
def newDraft (name : Text) (e : Editor) : StateM Session Editor := do
  let e ← e.saveNow
  return e.showResult (← (e.store.create name).run) .created

/-- Makes a new draft of the content and opens it. -/
def saveAs (name : Text) (e : Editor) : StateM Session Editor := do
  return e.showResult (← (e.store.saveAs name e.content).run) .savedAs

/-- Deletes the open draft and opens the one that takes its place. -/
def deleteCurrent (e : Editor) : StateM Session Editor := do
  let replace : Task (Stop StoreError) Draft := do
    Task.certain (e.store.load (← e.store.delete e.draft.id))
  match ← replace.run with
  | .ok draft => return (e.showDraft draft).say (.deleted e.draft.name)
  | .error (.failed cause) => return e.say (.draftsFailed cause)
  | .error (.panicked panic) => return { e with panicked := some panic }

/-- Shows the list of drafts, with the open one chosen. -/
def openPicker (e : Editor) : StateM Session Editor := do
  let listed ← e.store.list
  let selected := (listed.findIdx? fun summary => summary.id = e.draft.id).getD 0
  return { e with listed := listed, selected := selected, mode := .picker }

/-! ## 2. Presets -/

/-- The store of a preset and the draft of it that was opened last. -/
def openStore (e : Editor) (preset : Preset) : Task StoreError (Store × Draft) := do
  let store ← Store.openFor e.settings.draftRoot preset
  return (store, ← store.loadActive)

/-- Goes on with another preset and its drafts. -/
def switchPreset (id : Text) (e : Editor) : StateM Session Editor := do
  match e.catalog.get? id with
  | none => return e.say (.unknownPreset id)
  | some preset =>
    let e ← e.saveNow
    match ← (e.openStore preset).run with
    | .error cause => return e.say (.draftsFailed cause)
    | .ok (store, draft) =>
      let e := { e with preset := preset, store := store }
      return (e.showDraft draft).say (.presetChanged preset.displayName)

/-! ## 3. The page -/

/-- The page of the content. -/
def page (e : Editor) : Text := Page.render e.preset e.content.title e.content.source

/-- Writes the page into a directory. -/
def writePage (directory : Path) (e : Editor) : StateM Session Editor := do
  match ← (Page.exportTo directory e.content.filename e.page).run with
  | .ok path => return e.say (.pageWritten path)
  | .error cause => return e.say (.pageNotWritten cause)

/-! ## 4. Settings -/

/-- Writes the settings. -/
def saveSettings (e : Editor) : StateM Session Editor := do
  match ← e.settings.save.run with
  | .ok _ => return e
  | .error cause => return e.say (.settingsNotSaved cause)

/-- Changes between light and dark. -/
def toggleTheme (e : Editor) : StateM Session Editor := do
  let e ← saveSettings { e with settings := { e.settings with theme := e.settings.theme.toggled } }
  return { e with previewStale := true }.say (.themeChanged e.settings.theme)

/-- Shows or collapses the reference sheet. -/
def toggleReference (e : Editor) : StateM Session Editor :=
  let collapsed := !e.settings.referenceCollapsed
  saveSettings { e with settings := { e.settings with referenceCollapsed := collapsed } }

end MarkupDesk.Editor
