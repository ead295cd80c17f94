/-
`Proofs/Editor/Agreement.lean` -- the preview, the editor and the command line agree on a page.

The page of the open draft is shown in the preview, it is written by a key, and it is written by
the command for drafts. The first two take the content that the editor has; the command opens the
store of the preset anew and reads the draft from its file. What is read there is what the editor
has, if that was not changed since the draft was opened or saved (`Run.current`).

The page goes to a directory outside of those for drafts, but opening a store writes files, too,
and on the way to the directory others may be made. So it has to be shown that neither disturbs the
other: what the command does to the store stays below its directory (`openById_ok`), and a page is
no document. Then the page is in the file whichever of the two came last (`agrees`).
-/
import MarkupDesk.Proofs.Drafts.Separation
import MarkupDesk.Proofs.Editor.Preview
import MarkupDesk.Proofs.Editor.Solitary

set_option autoImplicit false

namespace MarkupDesk

open Files (Disk Location Within)
open MarkupDesk.Task (Ends)

variable {home : Location} {s after : Session} {root directory : Path} {preset : Preset}
  {id : Text}

/-! ## 1. A draft by its id -/

namespace Drafts

variable {store : Store} {draft : Draft} {result : Except StoreError Draft}

/-- Opening the drafts of a preset, and of them the one with the id. -/
def openById (root : Path) (preset : Preset) (id : Text) : Task StoreError Draft := do
  let store ← Store.openFor root preset
  store.load id

/-- A draft that can be read is the one that is opened, unless a file cannot be written. -/
theorem load_found (hread : readDraft s store id = some draft) (hwritten : Written result)
    (h : Ends (store.load id) s result after) : result = .ok draft := by
  unfold Store.load at h
  have h := ends_get_bind.1 h
  simp only [hread, pure_bind] at h
  obtain ⟨_, -, h⟩ := ends_write_bind hwritten h
  exact (Task.ends_pure.1 h).1

/-- Above the directory of a document there is the one for all presets. -/
theorem root_of_hasFolder (h : HasFolder s (Store.ofPreset root preset) (.draft id)) :
    ∃ outer, s.disk.Reaches s.cwd root outer := by
  obtain ⟨location, hreach⟩ := h
  obtain ⟨above, habove, -⟩ := (Disk.reaches_join_iff plainName_drafts).1 hreach
  obtain ⟨outer, houter, -⟩ :=
    (Disk.reaches_join_iff (plainName_componentName preset.id)).1 habove
  exact ⟨outer, houter⟩

/-- Opening the store and then a draft in it names no document. -/
theorem openById_frame {cwd : Location} (hroot : Disk.target cwd root = home) (preset : Preset)
    (id : Text) : (openById root preset id).Does cwd (Frame home Untouched) :=
  openFor_bind_frame hroot fun hin => load_frame hin id

/-- **Opening a draft by its id** gives the one that was in its file, unless a file cannot be
written, and nothing is changed outside of the directory of its store. -/
theorem openById_ok (hroot : Disk.target s.cwd root = home) (hunclaimed : Unclaimed id s after)
    (hread : readDraft s (Store.ofPreset root preset) id = some draft) (hwritten : Written result)
    (h : Ends (openById root preset id) s result after) :
    result = .ok draft ∧ Within (home ++ [componentName preset.id]) s after := by
  rcases Task.ends_bind.1 h with ⟨problem, hopen, rfl⟩ | ⟨store, opened, hopen, hload⟩
  · cases openFor_written hwritten.error hopen
  obtain rfl := openFor_store hopen
  have hin := in_ofPreset hroot preset
  constructor
  · -- opening the store may have made a draft, but under another id
    have hframe := (openFor_frame hroot preset).ends rfl hopen
    have hlast := (load_frame hin id).ends hframe.cwd_eq hload
    have hfile := (hframe.document_cases (hunclaimed.mono rfl rfl (Nat.le_refl _) hlast.tokens)
      preset.id).resolve_right fun hfalse => hfalse.elim
    exact load_found (hframe.readDraft hin hfile hread) hwritten hload
  · -- the directory for all presets is there, as it is above the file that is read
    have heffects := effects_confined hroot preset
    have hfirst := heffects.openFor.ends rfl hopen
    have hlast := (heffects.load id).ends hfirst.cwd hload
    have hconfined := (chains_confined root _).trans hfirst hlast
    exact hconfined.within (root_of_hasFolder ((readDraft_eq_some_iff hin).1 hread).1)

end Drafts

/-! ## 2. The command -/

namespace Shell

variable {setting : Setting} {printed : Text}

/-- **Writing the page of a draft** from the command line: the draft is opened by its id, its page
is exported, and the path is printed. -/
theorem writePage_ok
    (hpreset : setting.catalog.select? (setting.requested.or setting.settings.defaultPreset) =
      some preset) :
    Ends (runDrafts setting (.writePage (some id) directory)) s (.ok printed) after ↔
      ∃ draft loaded path,
        Ends (Drafts.openById setting.settings.draftRoot preset id) s (.ok draft) loaded ∧
        Ends (Page.exportTo directory draft.content.filename
          (Page.render preset draft.content.title draft.content.source)) loaded (.ok path) after ∧
        printed = path ++ ['\n'] := by
  have hchosen : setting.preset = pure preset := by
    unfold Setting.preset
    rw [hpreset]
  unfold runDrafts
  rw [hchosen, Task.certain_pure, pure_bind]
  -- the parts are the same, in another order of brackets and with their own errors
  constructor
  · intro h
    obtain ⟨store, opened, hopen, h⟩ := Task.ends_bind_ok.1 h
    obtain ⟨path, written, hwrite, h⟩ := Task.ends_bind_ok.1 h
    obtain ⟨hprinted, rfl⟩ := Task.ends_pure.1 h
    obtain ⟨draft, loaded, hload, hexport⟩ := Task.ends_bind_ok.1 (Task.ends_mapError_ok.1 hwrite)
    refine ⟨draft, loaded, path, Task.ends_bind_ok.2 ⟨store, opened, ?_, ?_⟩, ?_, ?_⟩
    · exact Task.ends_mapError_ok.1 (Task.ends_mapError_ok.1 hopen)
    · exact Task.ends_mapError_ok.1 hload
    · exact Task.ends_mapError_ok.1 hexport
    · exact Except.ok.inj hprinted
  · rintro ⟨draft, loaded, path, hdraft, hexport, rfl⟩
    obtain ⟨store, opened, hopen, hload⟩ := Task.ends_bind_ok.1 hdraft
    refine Task.ends_bind_ok.2
      ⟨store, opened, Task.ends_mapError_ok.2 (Task.ends_mapError_ok.2 hopen), ?_⟩
    refine Task.ends_bind_ok.2 ⟨path, after, Task.ends_mapError_ok.2 (Task.ends_bind_ok.2
      ⟨draft, loaded, Task.ends_mapError_ok.2 hload, Task.ends_mapError_ok.2 hexport⟩), ?_⟩
    exact Task.ends_pure.2 ⟨rfl, rfl⟩

end Shell

/-! ## 3. The same page -/

namespace Editor

open Drafts (Draft Store StoreError Unclaimed Written readDraft)

variable {e : Editor} {loaded : Session} {setting : Shell.Setting} {printed path : Text}
  {result : Except StoreError Draft}

/-- The file for the page of the open draft. -/
def pageFile (directory : Path) (e : Editor) : Path :=
  Path.join directory (Page.exportName e.content.filename)

/-- The page of the editor is read from its file. -/
def PageThere (directory : Path) (e : Editor) (s : Session) : Prop :=
  s.disk.read s.cwd (e.pageFile directory) = .ok e.page

/-- A command with that setting is about the preset of the editor and its drafts. -/
structure SameDrafts (setting : Shell.Setting) (e : Editor) : Prop where
  preset : setting.catalog.select? (setting.requested.or setting.settings.defaultPreset) =
    some e.preset
  root : setting.settings.draftRoot = e.settings.draftRoot

/-- The command that writes the page of the open draft into the directory. -/
def pageCommand (setting : Shell.Setting) (directory : Path) (e : Editor) :
    Task (Stop Shell.Failure) Text :=
  Shell.runDrafts setting (.writePage (some e.draft.id) directory)

/-- The editor and the command write the same page to the same file, and each can do so behind the
other. Before it comes to the page the command may fail, if it cannot write the files of its
store. -/
structure Agrees (setting : Shell.Setting) (directory : Path) (e : Editor)
    (s : Session) : Prop where
  command : ∀ {printed : Text} {after : Session}, Unclaimed e.draft.id s after →
    Ends (e.pageCommand setting directory) s (.ok printed) after →
      printed = e.pageFile directory ++ ['\n'] ∧ e.PageThere directory after ∧
        ((e.writePage directory).run after).1.notice = some (.pageWritten (e.pageFile directory)) ∧
        e.PageThere directory ((e.writePage directory).run after).2
  editor : ∀ {path : Path}, ((e.writePage directory).run s).1.notice = some (.pageWritten path) →
    path = e.pageFile directory ∧ e.PageThere directory ((e.writePage directory).run s).2 ∧
      ∀ {result : Except StoreError Draft} {loaded : Session}, Written result →
        Unclaimed e.draft.id ((e.writePage directory).run s).2 loaded →
        Ends (Drafts.openById setting.settings.draftRoot e.preset e.draft.id)
          ((e.writePage directory).run s).2 result loaded →
        ∃ after, e.PageThere directory after ∧
          Ends (e.pageCommand setting directory) ((e.writePage directory).run s).2
            (.ok (e.pageFile directory ++ ['\n'])) after

/-- An export of the page is told. -/
theorem writePage_of_ends
    (h : Ends (Page.exportTo directory e.content.filename e.page) s (.ok path) after) :
    (e.writePage directory).run s = (e.say (.pageWritten path), after) := by
  have hrun : (e.writePage directory).run s = _ := Session.run_bind _ _ s
  have hends : (Page.exportTo directory e.content.filename e.page).run.run s = (.ok path, after) := h
  rw [hrun, hends]
  rfl

section Current

variable (hsame : SameDrafts setting e)
  (hroot : Disk.target s.cwd setting.settings.draftRoot = home)
  (hread : readDraft s (Store.ofPreset setting.settings.draftRoot e.preset) e.draft.id =
    some e.draft)
  (hcontent : e.content = e.draft.content)

include hsame hroot hread hcontent

/-- **The command exports the page of the editor**, once it has opened the draft. -/
theorem pageCommand_ok (houtside : ¬ home <+: Disk.target s.cwd directory)
    (hunclaimed : Unclaimed e.draft.id s after)
    (h : Ends (e.pageCommand setting directory) s (.ok printed) after) :
    printed = e.pageFile directory ++ ['\n'] ∧
      Page.Exported directory e.content.filename e.page after := by
  obtain ⟨draft, loaded, path, hdraft, hexport, hprinted⟩ := (Shell.writePage_ok hsame.preset).1 h
  -- the ids that were made are those that opening the draft has made
  have hframe := (Drafts.openById_frame hroot e.preset e.draft.id).ends rfl hdraft
  have hquiet := (Page.exportTo_quiet houtside _ _).ends hframe.cwd_eq hexport
  have hbefore : loaded.nextToken ≤ after.nextToken := Nat.le_of_eq (by rw [hquiet.same])
  have hopened := hunclaimed.mono rfl rfl (Nat.le_refl _) hbefore
  have hwritten : Written (.ok draft : Except StoreError Draft) := trivial
  obtain ⟨hfound, -⟩ := Drafts.openById_ok hroot hopened hread hwritten hdraft
  rw [Except.ok.inj hfound, ← hcontent] at hexport
  obtain ⟨hpath, hexported⟩ := Page.exportTo_ok hexport
  rw [hprinted, hpath]
  exact ⟨rfl, hexported⟩

/-- **Where the page is already** the command exports it as well, unless it cannot write the files
of its store: opening the draft leaves the page where it is. -/
theorem pageCommand_again (houtside : ¬ home <+: Disk.target s.cwd directory)
    (hexported : Page.Exported directory e.content.filename e.page s)
    (hunclaimed : Unclaimed e.draft.id s loaded) (hwritten : Written result)
    (hdraft : Ends (Drafts.openById setting.settings.draftRoot e.preset e.draft.id) s result
      loaded) :
    ∃ after, e.PageThere directory after ∧
      Ends (e.pageCommand setting directory) s (.ok (e.pageFile directory ++ ['\n'])) after := by
  obtain ⟨rfl, hwithin⟩ := Drafts.openById_ok hroot hunclaimed hread hwritten hdraft
  -- loading the draft stays within the drafts, so the page is still where it was exported
  have hstays := hexported.within (Page.not_prefix_page houtside _ _) hwithin
  obtain ⟨after, hagain⟩ := hstays.again e.page
  refine ⟨after, (Page.exportTo_ok hagain).2.page, (Shell.writePage_ok hsame.preset).2 ?_⟩
  refine ⟨_, loaded, _, hdraft, ?_, rfl⟩
  rw [← hcontent]
  exact hagain

/-- **The editor and the command line agree** where the draft that is read from the file is the
one that is open and has the content that the editor has. -/
theorem agrees (houtside : ¬ home <+: Disk.target s.cwd directory) :
    Agrees setting directory e s := by
  constructor
  · intro printed after hunclaimed h
    obtain ⟨hprinted, hexported⟩ :=
      pageCommand_ok hsame hroot hread hcontent houtside hunclaimed h
    -- where the command has put the page the editor can put it, too
    obtain ⟨last, hagain⟩ := hexported.again e.page
    rw [writePage_of_ends hagain]
    exact ⟨hprinted, hexported.page, rfl, (Page.exportTo_ok hagain).2.page⟩
  · intro path hnotice
    obtain ⟨hpath, hexport⟩ := writePage_exported hnotice
    have hexported := (Page.exportTo_ok hexport).2
    refine ⟨hpath, hexported.page, fun hwritten hunclaimed hdraft => ?_⟩
    -- a page is no draft, so that the draft is read as before
    have hin := Drafts.in_ofPreset hroot e.preset
    have hquiet := (Page.exportTo_quiet houtside e.content.filename e.page).ends rfl hexport
    have hcwd := (Drafts.chains_quiet home).cwd hquiet
    rw [← hcwd] at hroot houtside
    exact pageCommand_again hsame hroot (hquiet.readDraft hin hread) hcontent houtside hexported
      hunclaimed hwritten hdraft

end Current

/-- **The preview, the editor and the command line agree on the page.** In every run the lines
that are shown are those of the page of the preset, the title and the text, wherever its lines are
cut into pieces for their colours; and the key for the page writes that page to the file that is
told. Let the editor then be alone with its files, every document in the file of its id from the
start and that of the open draft still there, and the content not changed; a save that fails leaves
it changed. Then the command for the page of the open draft, given the same preset and directory,
writes that page as well, to the same file. -/
theorem run_agreement (log : List Step) (s : Session) (e : Editor) :
    (∀ rules, Run rules log s e →
      e.refreshPreview.preview = pageLines (Page.render e.preset e.content.title e.source) ∧
      (∀ pieces, pieces.map List.flatten =
          endedLines (Page.render e.preset e.content.title e.source) →
        shownLines pieces = e.refreshPreview.preview) ∧
      ∀ rows path, e.mode = .insert →
        ((e.handle rows ⟨.char 'e', true⟩).run s).1.notice = some (.pageWritten path) →
        path = Path.join ['.'] (Page.exportName e.content.filename) ∧
          ((e.handle rows ⟨.char 'e', true⟩).run s).2.disk.read
              ((e.handle rows ⟨.char 'e', true⟩).run s).2.cwd path =
            .ok (Page.render e.preset e.content.title e.source)) ∧
    ∀ home setting directory, Run (.solitary home) log s e → e.dirty = false →
      (readDraft s e.store e.draft.id).isSome = true → SameDrafts setting e →
      ¬ home <+: Disk.target s.cwd directory → Agrees setting directory e s := by
  refine ⟨fun rules h => ?_, fun home setting directory h hclean hthere hsame houtside => ?_⟩
  · have hpreview : e.refreshPreview.preview =
        pageLines (Page.render e.preset e.content.title e.source) := h.drawn.refreshed.1
    refine ⟨hpreview, fun pieces hpieces => ?_, fun rows path hmode hnotice => ?_⟩
    · rw [shownLines_eq hpieces, hpreview]
    · rw [handle_pageKey hmode] at hnotice ⊢
      obtain ⟨hpath, hexport⟩ := writePage_exported hnotice
      rw [hpath]
      exact ⟨rfl, (Page.exportTo_ok hexport).2.page⟩
  · have hsettled := h.shared_of_solitary.consistent.1
    -- what is read from the file of the open draft is that draft
    obtain ⟨draft, hread⟩ := Option.isSome_iff_exists.1 hthere
    obtain rfl := h.current.draft hclean draft hread
    have hstore : e.store = Store.ofPreset setting.settings.draftRoot e.preset := by
      rw [hsame.root]
      exact h.placed
    rw [hstore] at hread
    exact agrees hsame (hsame.root ▸ hsettled.root) hread
      (h.shared_of_solitary.coherent.content hclean) houtside

/-- A command line with the settings and the preset of `markedStart`. -/
def markedSetting : Shell.Setting := ⟨.standard "/config" "/data", ⟨[markedPreset]⟩, none⟩

/-- A character was typed and saved. The preview shows the page then, the key for the page
writes it into the current directory, and the command writes it into another one. -/
theorem run_agreement_saving :
    let e := (behind savingEvents markedSession markedEditor).1
    let s := (behind savingEvents markedSession markedEditor).2
    let pressed := ((e.handle 20 ⟨.char 'e', true⟩).run s).2
    e.refreshPreview.preview = pageLines (Page.render e.preset e.content.title e.source) ∧
      pressed.disk.read pressed.cwd (e.pageFile ['.']) =
        .ok (Page.render e.preset e.content.title e.source) ∧
      ∃ after, e.PageThere "/out" after ∧
        Ends (e.pageCommand markedSetting "/out") s (.ok (e.pageFile "/out" ++ ['\n'])) after := by
  intro e s pressed
  have hrun : Run (.solitary firstHome) (steps savingEvents markedSession markedEditor ++ []) s e :=
    Run.events (run_marked begins_empty) (by decide +kernel)
  have hagreement := run_agreement (steps savingEvents markedSession markedEditor ++ []) s e
  obtain ⟨hpreview, -, hkey⟩ := hagreement.1 _ hrun
  have hfacts : e.dirty = false ∧ (readDraft s e.store e.draft.id).isSome = true ∧
      ¬ firstHome <+: Disk.target s.cwd "/out" ∧ e.mode = .insert ∧
      ((e.handle 20 ⟨.char 'e', true⟩).run s).1.notice = some (.pageWritten (e.pageFile ['.'])) ∧
      ((e.pageCommand markedSetting "/out").run.run s).1.toOption.isSome = true ∧
      Unclaimed e.draft.id s ((e.pageCommand markedSetting "/out").run.run s).2 := by
    decide +kernel
  obtain ⟨hclean, hthere, houtside, hmode, hnotice, hsome, hunclaimed⟩ := hfacts
  -- the command is told to use the editor's preset and root
  have hsame : SameDrafts markedSetting e := ⟨by decide +kernel, by decide +kernel⟩
  have hagrees := hagreement.2 firstHome markedSetting "/out" hrun hclean hthere hsame houtside
  have hends := Task.ends_toOption hsome
  obtain ⟨hprinted, hpage, -⟩ := hagrees.command hunclaimed hends
  rw [hprinted] at hends
  exact ⟨hpreview, (hkey 20 _ hmode hnotice).2, _, hpage, hends⟩

end Editor

end MarkupDesk
