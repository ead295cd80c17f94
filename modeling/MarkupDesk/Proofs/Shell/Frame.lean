/-
`Proofs/Shell/Frame.lean` -- what a whole command for drafts may change.

A command that is carried out from the command line begins with the settings and the presets,
which are no drafts. Of the commands for drafts one removes the document of a draft, the
others make documents under new ids at most; a page is supposed to go to another directory than
those of the drafts. So documents may go, and new ones may come, but none is changed.
-/
import MarkupDesk.Proofs.Drafts.Quiet
import MarkupDesk.Shell.Run

set_option autoImplicit false

namespace MarkupDesk

open Drafts (Frame Quiet Store Untouched chains_quiet)
open Files (Disk Location)
open MarkupDesk.Task (Ends)

/-! ## 1. Loading presets -/

theorem chains_eq : Chains fun s after : Session => after = s :=
  ⟨fun _ => rfl, fun h h' => h'.trans h, fun h => by rw [h]⟩

/-- Loading a preset only looks at the disk. -/
theorem Preset.looks_load (path : Path) : Session.Looks (Preset.load path).run := by
  intro s
  have hread : ∀ path, (Files.readText path).Does s.cwd fun s after => after = s := fun path =>
    Task.does_bind chains_eq (Task.does_get chains_eq) fun _ => Task.does_ofExcept chains_eq _
  have hload : (Preset.load path).Does s.cwd fun s after => after = s := by
    refine Task.does_bind chains_eq (Task.does_mapError (hread path)) fun source => ?_
    split
    · exact Task.does_throw chains_eq _
    · exact Task.does_bind chains_eq (Task.does_mapError (hread _)) fun _ =>
        Task.does_pure chains_eq _
  exact hload.ends rfl rfl

/-- What only looks may be done for all items of a list. -/
theorem Session.looks_mapM {α β : Type} {action : α → StateM Session β}
    (h : ∀ x, Looks (action x)) (items : List α) : Looks (items.mapM action) := by
  intro s
  induction items with
  | nil => rfl
  | cons x items ih =>
    rw [List.mapM_cons, Session.run_bind, h x s, Session.run_bind, ih]
    rfl

/-- Loading the catalog only looks at the disk, at the directory and at each preset in it. -/
theorem Catalog.looks_load (directory : Option Path) : Session.Looks (Catalog.load directory) := by
  intro s
  cases directory with
  | none => rfl
  | some directory =>
    exact Session.looks_mapM (fun path => Preset.looks_load path)
      (presetPaths s.disk s.cwd directory) s

namespace Shell

variable {home cwd : Location} {s after : Session} {setting : Setting} {invocation : Invocation}
  {command : DraftsCommand}

/-! ## 2. Setting up -/

/-- Setting up touches no draft: the settings may be written, and the presets are only read.
The editor, which also prepares its log, is left out. -/
theorem setUp_quiet (h : invocation.command ≠ .edit) : (setUp invocation).Does cwd (Quiet home) := by
  have hchains := chains_quiet home
  refine Task.does_bind hchains (Task.does_mapError Settings.load_quiet) fun settings => ?_
  simp only [if_neg h]
  refine Task.does_bind hchains (Task.does_lift hchains (Catalog.looks_load _)) fun catalog => ?_
  cases invocation.preset with
  | none => exact Task.does_pure hchains _
  | some id =>
    simp only
    split
    · exact Task.does_bind hchains (Task.does_throw hchains _) fun _ => Task.does_pure hchains _
    · exact Task.does_pure hchains _

/-! ## 3. Commands for drafts -/

/-- Documents may be removed. -/
def MayGo (_ : Location) (_ new : Option Files.Content) : Prop := new = none

theorem chains_mayGo (home : Location) : Chains (Frame home MayGo) :=
  ⟨Frame.refl home MayGo, Frame.trans fun _ _ _ _ _ h => h, Frame.cwd_eq⟩

/-- The command finds the drafts below `home`, and writes no page there. -/
structure DraftsCommand.Fits (command : DraftsCommand) (home cwd : Location) (setting : Setting) :
    Prop where
  root : Disk.target cwd setting.settings.draftRoot = home
  page : ∀ id directory, command = .writePage id directory → ¬ home <+: Disk.target cwd directory

/-- Opening a draft changes no document, whether the draft is named or not. -/
theorem chosenDraft_frame {store : Store} (hin : store.In home cwd) (id : Option Text) :
    (chosenDraft store id).Does cwd (Frame home MayGo) := by
  suffices hnever : (chosenDraft store id).Does cwd (Frame home Untouched) from
    hnever.mono fun _ _ => Frame.of_untouched
  cases id with
  | none => exact Task.does_mapError (Drafts.loadActive_frame hin)
  | some id => exact Task.does_mapError (Drafts.load_frame hin id)

/-- What is done with the drafts of a store changes no document, and only deleting takes one away:
there is one case for each command. A deletion that panics has taken its document away as well. -/
theorem runOnStore_frame {store : Store} (hin : store.In home cwd) (preset : Preset)
    (hpage : ∀ id directory, command = .writePage id directory →
      ¬ home <+: Disk.target cwd directory) :
    (runOnStore preset store command).Does cwd (Frame home MayGo) := by
  have hchains := chains_mayGo home
  have hnever : ∀ s after, Frame home Untouched s after → Frame home MayGo s after :=
    fun _ _ => Frame.of_untouched
  cases command with
  | list =>
    refine Task.does_bind hchains (Task.does_lift hchains fun s => ?_) fun active => ?_
    · unfold Store.activeId
      rw [Session.run_bind]
      cases (store.index.run s).1.order.head? <;> rfl
    · exact Task.does_bind hchains (Task.does_lift hchains fun _ => rfl) fun _ =>
        Task.does_pure hchains _
  | new name =>
    refine Task.does_bind hchains (Task.does_certain
      ((Task.does_mapError (Drafts.create_frame hin name)).mono hnever)) fun draft => ?_
    exact Task.does_pure hchains _
  | print id =>
    exact Task.does_bind hchains (Task.does_certain (chosenDraft_frame hin id)) fun _ =>
      Task.does_pure hchains _
  -- the one command that takes a document away
  | delete id =>
    refine Task.does_bind hchains ((Task.does_mapError (Drafts.delete_frame hin id)).mono
      fun s after hframe => hframe.mono fun _ _ hremoved => hremoved.2) fun next => ?_
    exact Task.does_pure hchains _
  -- the page is written outside, and the drafts are only read
  | writePage id directory =>
    have hwrite : (writeDraftPage preset store id directory).Does cwd (Frame home MayGo) := by
      refine Task.does_bind hchains (chosenDraft_frame hin id) fun draft => ?_
      exact (Task.does_mapError (Page.exportTo_quiet (hpage id directory rfl) _ _)).mono
        fun _ _ => Quiet.frame
    exact Task.does_bind hchains (Task.does_certain hwrite) fun path => Task.does_pure hchains _

/-- A command for drafts finds its store and does its work on it. Whatever happens, documents
may only go. -/
theorem runDrafts_frame (h : command.Fits home cwd setting) :
    (runDrafts setting command).Does cwd (Frame home MayGo) := by
  have hchains := chains_mayGo home
  have hpreset : setting.preset.Does cwd (Frame home MayGo) := by
    unfold Setting.preset
    split
    · exact Task.does_pure hchains _
    · exact Task.does_throw hchains _
  refine Task.does_bind hchains (Task.does_certain hpreset) fun preset => ?_
  -- the store that is opened is that of the preset
  intro s result after hcwd hends
  have hopened : (Task.mapError (·.failure)
      (Store.openFor setting.settings.draftRoot preset)).Does cwd (Frame home MayGo) :=
    (Task.does_mapError (Drafts.openFor_frame h.root preset)).mono fun _ _ => Frame.of_untouched
  rcases Task.ends_certain_bind.1 hends with ⟨problem, hopen, -⟩ | ⟨store, between, hopen, hrest⟩
  · exact hopened.ends hcwd hopen
  have hfirst := hopened.ends hcwd hopen
  have hin : store.In home cwd :=
    Drafts.openFor_store (Task.ends_mapError_ok.1 hopen) ▸ Drafts.in_ofPreset h.root preset
  exact hchains.trans hfirst
    ((runOnStore_frame hin preset h.page).ends (hfirst.cwd_eq.trans hcwd) hrest)

/-! ## 4. Whole runs -/

/-- The program is run with a command for drafts, which finds the drafts below `home` and writes
no page there. -/
def RunsDrafts (home : Location) (arguments : List Text) (s : Session) : Prop :=
  ∃ invocation command, Invocation.ofArguments arguments = .ok invocation ∧
    invocation.command = .drafts command ∧
    ∀ setting between, Ends (setUp invocation) s (.ok setting) between →
      command.Fits home s.cwd setting

/-- **A whole command for drafts** changes no document that it does not take away. Setting up
comes first, and if that fails nothing else is done. -/
theorem RunsDrafts.frame {arguments : List Text} (h : RunsDrafts home arguments s) :
    Frame home MayGo s ((Shell.run arguments).run s).2 := by
  obtain ⟨invocation, command, harguments, hcommand, hfits⟩ := h
  have hnotEdit : invocation.command ≠ .edit := by
    rw [hcommand]
    exact Command.noConfusion
  have hrun : ((Shell.run arguments).run s).2 =
      (match (setUp invocation).run.run s with
        | (.error _, between) => between
        | (.ok setting, between) => ((runDrafts setting command).run.run between).2) := by
    unfold Shell.run
    rw [harguments]
    simp only
    rw [Session.run_bind]
    cases hsetUp : (setUp invocation).run.run s with
    | mk outcome between =>
      cases outcome with
      | error failure => rfl
      | ok setting =>
        simp only [carryOut, hcommand]
        rfl
  rw [hrun]
  cases hsetUp : (setUp invocation).run.run s with
  | mk outcome between =>
    have hquiet : Quiet home s between := (setUp_quiet hnotEdit).ends rfl hsetUp
    cases outcome with
    -- the settings or the preset were refused
    | error failure => exact hquiet.frame
    | ok setting =>
      have hfirst : Frame home MayGo s between := hquiet.frame
      refine (chains_mayGo home).trans hfirst ?_
      exact (runDrafts_frame (hfits setting between hsetUp)).ends hfirst.cwd_eq rfl

end Shell

end MarkupDesk
