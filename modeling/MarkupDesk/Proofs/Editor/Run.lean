/-
`Proofs/Editor/Run.lean` -- runs of the editor.

A run begins where the editor is started, and goes on with steps. Between two steps the
surroundings may change: time passes, other programs do something to the disk. What is supposed
of the start, of the surroundings and of the steps are the `Rules` of the run. The steps are kept
in a log, the last one first, so that what a step may do can be told by what was done before. A
step that panics is the last one: the program is gone, and only the surroundings go on.

A press of a key is three steps of a run, or two if the key panics (`Run.press`). Where
nothing but whole commands for drafts comes between the steps, the editor stays with its
drafts and they stay in the files of their ids (`Run.consistent`).
-/
import MarkupDesk.Proofs.Drafts.Refinement
import MarkupDesk.Proofs.Editor.Documents
import MarkupDesk.Proofs.Editor.Event
import MarkupDesk.Proofs.Shell.Frame

set_option autoImplicit false

namespace MarkupDesk.Editor

open Drafts (Consistent Frame Moment spot)
open Files (Disk Location)
open MarkupDesk.Task (Ends)

/-! ## 1. Steps -/

/-- A step that was made, and the session and the editor before it. -/
structure Step where
  event : Event
  session : Session
  editor : Editor

namespace Step

/-- The editor and the session behind the step. -/
def after (step : Step) : Editor × Session := (step.event.run step.editor).run step.session

/-- The command that was carried out. -/
def command? (step : Step) : Option Command := step.event.command? step.editor

/-- The errand that was run. -/
def errand? (step : Step) : Option Errand := step.event.errand? step.session.ticks step.editor

/-- What the step does, by the errand of it. -/
theorem after_cases (step : Step) :
    (step.errand? = none ∧
        Harmless step.event step.editor step.session step.after.1 step.after.2) ∨
      ∃ errand, step.errand? = some errand ∧
        Carries step.event errand step.editor step.session step.after.1 step.after.2 := by
  cases h : step.errand? with
  | none => exact .inl ⟨rfl, run_of_none h⟩
  | some errand => exact .inr ⟨errand, rfl, run_of_errand h⟩

/-- What the step may do to documents. -/
def May (home : Location) (step : Step) (x : Location) (old new : Option Files.Content) : Prop :=
  ∃ errand, step.errand? = some errand ∧ errand.May home step.editor.work x old new

/-- The save that the step begins with, if it does, finds the open draft in the file of its id. -/
def Filed (home : Location) (step : Step) : Prop :=
  ∀ errand, step.errand? = some errand → errand.Filed home step.session step.editor.work

/-- No page is written among the drafts. -/
def Outside (home : Location) (step : Step) : Prop :=
  ∀ errand, step.errand? = some errand → errand.Outside home step.session.cwd

variable {home : Location} {step : Step}

/-- Where all documents are in the files of their ids, each step finds the open one there. -/
theorem filed (h : Consistent home step.session) : step.Filed home :=
  fun errand _ => errand.filed h step.editor.work

/-- A step keeps the editor with the drafts below its directory. -/
theorem settled (hsettled : Settled home step.session.cwd step.editor.work) :
    Settled home step.after.2.cwd step.after.1.work := by
  rcases step.after_cases with ⟨-, hnone⟩ | ⟨errand, -, hcarries⟩
  · rw [hnone.session]
    rcases hnone.work with hwork | ⟨content, hwork⟩
    · rwa [hwork]
    · rw [hwork]
      exact ⟨hsettled.store, hsettled.root⟩
  · obtain ⟨e, hsame, hwork, -, hsession⟩ := hcarries.run
    rw [← hsame] at hsettled
    rw [hwork, hsession, errand_cwd hsettled]
    exact errand_settled hsettled

/-- **What a step does to documents.** -/
theorem frame (hsettled : Settled home step.session.cwd step.editor.work)
    (hfiled : step.Filed home) (houtside : step.Outside home) :
    Frame home (step.May home) step.session step.after.2 := by
  rcases step.after_cases with ⟨-, hnone⟩ | ⟨errand, herrand, hcarries⟩
  · rw [hnone.session]
    exact Frame.refl home _ step.session
  · obtain ⟨e, hsame, -, -, hsession⟩ := hcarries.run
    have hfiled' := hfiled errand herrand
    rw [← hsame] at hsettled hfiled'
    rw [hsession]
    refine (errand_frame hsettled hfiled' (houtside errand herrand)).mono fun x new hmay => ?_
    exact ⟨errand, herrand, hsame ▸ hmay⟩

/-- **What is shown behind a step** is what is read. -/
theorem held (hsettled : Settled home step.session.cwd step.editor.work)
    (hconsistent : Consistent home step.session) (hclock : step.session.now.Proper)
    (houtside : step.Outside home) (hunfailed : Unfailed step.after.1)
    (hheld : Held step.session step.editor.work) : Held step.after.2 step.after.1.work := by
  rcases step.after_cases with ⟨-, hnone⟩ | ⟨errand, herrand, hcarries⟩
  · rw [hnone.session]
    rcases hnone.work with hwork | ⟨content, hwork⟩
    · rwa [hwork]
    · rw [hwork]
      exact fun hclean => absurd hclean Bool.noConfusion
  · obtain ⟨e, hsame, hwork, hnotice, hsession⟩ := hcarries.run
    rw [← hsame] at hsettled hheld
    -- the notice of the step is that of its errand, so the errand has not failed either
    have hunfailed' : Unfailed ((errand.run e).run step.session).1 := by
      refine ⟨(congrArg Work.panicked hwork).symm.trans hunfailed.1, ?_⟩
      have hcauses := hunfailed.2
      rwa [failure?, hnotice] at hcauses
    rw [hwork, hsession]
    exact errand_held hsettled hclock hconsistent (houtside errand herrand) hunfailed' hheld

end Step

/-! ## 2. The start -/

/-- The editor starts with a store that was opened and a draft that was fetched from it. -/
theorem start_ends {settings : Settings} {catalog : Catalog} {requested : Option Text}
    {s after : Session} {e : Editor}
    (h : Ends (Editor.start settings catalog requested) s (.ok e) after) :
    ∃ preset between, Ends (Drafts.Store.openFor settings.draftRoot preset) s (.ok e.store) between ∧
      Ends e.store.loadActive between (.ok e.draft) after ∧
      e = ofDraft settings catalog preset e.store e.draft := by
  unfold Editor.start at h
  split at h
  · cases (Task.ends_throw.1 h).1
  next preset _ =>
    obtain ⟨store, between, hopen, h⟩ := Task.ends_bind_ok.1 h
    obtain ⟨draft, last, hload, h⟩ := Task.ends_bind_ok.1 h
    obtain ⟨he, rfl⟩ := Task.ends_pure.1 h
    obtain rfl := Except.ok.inj he
    exact ⟨preset, between, Task.ends_mapError_ok.1 hopen, Task.ends_mapError_ok.1 hload, rfl⟩

/-- What the start does to documents, and what it finds. -/
theorem start_frame {home : Location} {settings : Settings} {catalog : Catalog}
    {requested : Option Text} {s after : Session} {e : Editor}
    (hroot : Disk.target s.cwd settings.draftRoot = home)
    (h : Ends (Editor.start settings catalog requested) s (.ok e) after) :
    Frame home Drafts.Untouched s after ∧ Settled home after.cwd e.work ∧
      (Consistent home s → s.now.Proper → Held after e.work) := by
  obtain ⟨preset, between, hopen, hload, he⟩ := start_ends h
  have hfirst := (Drafts.openFor_frame hroot preset).ends rfl hopen
  have hin : e.store.In home between.cwd := by
    rw [hfirst.cwd_eq, Drafts.openFor_store hopen]
    exact Drafts.in_ofPreset hroot preset
  have hframe := (Drafts.chains_frame home).trans hfirst ((Drafts.loadActive_frame hin).ends rfl hload)
  refine ⟨hframe, ⟨?_, ?_⟩, fun hconsistent hclock _ => ?_⟩
  · rw [hframe.cwd_eq, ← hfirst.cwd_eq]
    exact hin
  · rw [hframe.cwd_eq, he]
    exact hroot
  -- opening the store leaves every document in its file, so the draft that is loaded is read
  · have hclock' : between.now.Proper := hfirst.now_eq.symm ▸ hclock
    have hfound : Drafts.Written (.ok e.draft : Except Drafts.StoreError Drafts.Draft) := trivial
    obtain ⟨_, hresult, hread⟩ := Drafts.loadActive_written hin hclock'
      (hfirst.consistent hclock hconsistent) hfound hload
    rw [← Except.ok.inj hresult] at hread
    exact hread

/-! ## 3. Runs -/

/-- What is supposed of a run: of the settings and the session at the start, of the surroundings
between two steps, and of the steps. -/
structure Rules where
  begins : Settings → Session → Prop
  passes : Session → Session → Prop
  allows : Step → Prop

/-- A run of the editor that keeps to the rules, with its steps, the last one first. -/
inductive Run (rules : Rules) : List Step → Session → Editor → Prop where
  | start {settings : Settings} {catalog : Catalog} {requested : Option Text} {s after : Session}
    {e : Editor} (hbegins : rules.begins settings s)
    (hstart : Ends (Editor.start settings catalog requested) s (.ok e) after) : Run rules [] after e
  | step {log : List Step} {s : Session} {e : Editor} (hrun : Run rules log s e)
    (hgoes : e.panicked = none) (event : Event) (hallows : rules.allows ⟨event, s, e⟩) :
    Run rules (⟨event, s, e⟩ :: log) (Step.after ⟨event, s, e⟩).2 (Step.after ⟨event, s, e⟩).1
  | pass {log : List Step} {s s' : Session} {e : Editor} (hrun : Run rules log s e)
    (hpasses : rules.passes s s') : Run rules log s' e

variable {rules : Rules} {home : Location} {log : List Step} {s s' : Session} {e : Editor}

/-- A run that keeps to some rules keeps to weaker ones. -/
theorem Run.mono {weaker : Rules} (h : Run rules log s e)
    (hbegins : ∀ settings s, rules.begins settings s → weaker.begins settings s)
    (hpasses : ∀ s s', rules.passes s s' → weaker.passes s s')
    (hallows : ∀ step, rules.allows step → weaker.allows step) : Run weaker log s e := by
  induction h with
  | start hbegun hends => exact .start (hbegins _ _ hbegun) hends
  | step _ hgoes event hallowed ih => exact ih.step hgoes event (hallows _ hallowed)
  | pass _ hpassed ih => exact ih.pass (hpasses _ _ hpassed)

/-- The steps that are made of events, one after the other, the last one first. Events behind a
panic come to nothing. -/
def steps : List Event → Session → Editor → List Step
  | [], _, _ => []
  | event :: events, s, e =>
    if e.panicked.isSome then []
    else steps events (Step.after ⟨event, s, e⟩).2 (Step.after ⟨event, s, e⟩).1 ++ [⟨event, s, e⟩]

/-- The editor and the session behind the events. -/
def behind : List Event → Session → Editor → Editor × Session
  | [], s, e => (e, s)
  | event :: events, s, e =>
    if e.panicked.isSome then (e, s)
    else behind events (Step.after ⟨event, s, e⟩).2 (Step.after ⟨event, s, e⟩).1

/-- A run goes on with events. -/
theorem Run.events {events : List Event} (h : Run rules log s e)
    (hallows : ∀ step ∈ steps events s e, rules.allows step) :
    Run rules (steps events s e ++ log) (behind events s e).2 (behind events s e).1 := by
  induction events generalizing log s e with
  | nil => exact h
  | cons event events ih =>
    rw [steps] at hallows ⊢
    rw [behind]
    -- behind a panic no event is a step any more
    by_cases hpanicked : e.panicked.isSome = true
    · rw [if_pos hpanicked, if_pos hpanicked]
      exact h
    · rw [if_neg hpanicked] at hallows
      rw [if_neg hpanicked, if_neg hpanicked, List.append_assoc]
      have hgoes : e.panicked = none := Option.not_isSome_iff_eq_none.1 hpanicked
      refine ih (h.step hgoes event (hallows _ (List.mem_append_right _ List.mem_cons_self))) ?_
      exact fun step hstep => hallows step (List.mem_append_left _ hstep)

/-- A step behind the events. -/
def stepBehind (events : List Event) (event : Event) (s : Session) (e : Editor) : Step :=
  ⟨event, (behind events s e).2, (behind events s e).1⟩

/-- The step that would be made next belongs to the run as it has been so far. -/
theorem Run.stepBehind {events : List Event} (h : Run rules log s e)
    (hallows : ∀ step ∈ steps events s e, rules.allows step) (event : Event) :
    Run rules (steps events s e ++ log) (stepBehind events event s e).session
      (stepBehind events event s e).editor := h.events hallows

/-! ## 4. Presses -/

/-- The save behind a key: in any case if the key closed the editor, else if it is time to. -/
def saveBehind (closed : Bool) : Event := if closed then .leave else .autosave

/-- Behind a key comes the save that is due, or the last one. -/
theorem saveBehind_run (e : Editor) :
    (saveBehind e.closed).run e = if e.closed then e.saveNow else e.savePending := by
  unfold saveBehind
  cases e.closed <;> rfl

/-- The key of a press, behind the preparation of the screen. -/
def keyStep (size : Nat × Nat) (key : Key) (e : Editor) (s : Session) : Step :=
  ⟨.key (e.layout size).editor.innerSize.2 key, s, e.prepare size⟩

/-- A press in an editor that goes on: the screen is prepared, the key is taken, and the content is
saved if it is time to. -/
theorem press_of_open {e' : Editor} {size : Nat × Nat} {key : Key} (hopen : e.ended = false)
    (hkey : ((e.prepare size).handle (e.layout size).editor.innerSize.2 key).run s = (e', s'))
    (hstill : e'.ended = false) : (e.press size key).run s = e'.savePending.run s' := by
  obtain ⟨hclosed, hpanicked⟩ : e'.closed = false ∧ e'.panicked.isSome = false :=
    Bool.or_eq_false_iff.1 hstill
  unfold Editor.press
  rw [hopen, if_neg Bool.false_ne_true]
  simp only
  rw [Session.run_bind, hkey]
  simp only [hclosed, hpanicked]
  rfl

/-- The steps of a press of a key, the last one first. Behind a panic nothing is saved. -/
def pressSteps (size : Nat × Nat) (key : Key) (e : Editor) (s : Session) : List Step :=
  if e.ended then []
  else
    let pressed := (keyStep size key e s).after
    let made := [keyStep size key e s, ⟨.prepare size, s, e⟩]
    if pressed.1.panicked.isSome then made
    else ⟨saveBehind pressed.1.closed, pressed.2, pressed.1⟩ :: made

/-- The run goes on where the editor has not ended. -/
theorem panicked_of_not_ended (h : ¬ e.ended = true) : e.panicked = none := by
  unfold ended at h
  rw [Bool.or_eq_true, not_or] at h
  exact Option.not_isSome_iff_eq_none.1 h.2

/-- Drawing does not panic. -/
theorem prepare_panicked (size : Nat × Nat) (e : Editor) :
    (e.prepare size).panicked = e.panicked := by
  obtain ⟨_, _, _, _, hprepared⟩ := exists_prepare_eq size e
  rw [hprepared]

/-- **A press** is a run of three steps, or of two if the key panics. -/
theorem Run.press (h : Run rules log s e) (size : Nat × Nat) (key : Key)
    (hallows : ∀ step ∈ pressSteps size key e s, rules.allows step) :
    Run rules (pressSteps size key e s ++ log) ((e.press size key).run s).2
      ((e.press size key).run s).1 := by
  unfold pressSteps at hallows ⊢
  by_cases hended : e.ended = true
  · have hpress : (e.press size key).run s = (e, s) := by
      unfold Editor.press
      rw [if_pos hended, Session.run_pure]
    rw [if_pos hended, hpress]
    exact h
  have hgoes : e.panicked = none := panicked_of_not_ended hended
  -- the screen is prepared in any case, and then the key is taken
  have hmade : ∀ step ∈ [keyStep size key e s, ⟨.prepare size, s, e⟩], rules.allows step := by
    intro step hstep
    refine hallows step ?_
    rw [if_neg hended]
    simp only
    split
    · exact hstep
    · exact List.mem_cons_of_mem _ hstep
  have htaken : Run rules (keyStep size key e s :: ⟨.prepare size, s, e⟩ :: log)
      (keyStep size key e s).after.2 (keyStep size key e s).after.1 :=
    (h.step hgoes (.prepare size) (hmade _ (List.mem_cons_of_mem _ List.mem_cons_self))).step
      ((prepare_panicked size e).trans hgoes) _ (hmade _ List.mem_cons_self)
  have hpress : (e.press size key).run s =
      StateT.run (if (keyStep size key e s).after.1.panicked.isSome then
          pure (keyStep size key e s).after.1
        else if (keyStep size key e s).after.1.closed then (keyStep size key e s).after.1.saveNow
        else (keyStep size key e s).after.1.savePending) (keyStep size key e s).after.2 := by
    unfold Editor.press
    rw [if_neg hended]
    simp only
    rw [Session.run_bind]
    rfl
  rw [hpress]
  simp only [if_neg hended] at hallows ⊢
  by_cases hpanicked : (keyStep size key e s).after.1.panicked.isSome = true
  · rw [if_pos hpanicked, if_pos hpanicked, Session.run_pure]
    exact htaken
  · rw [if_neg hpanicked] at hallows
    rw [if_neg hpanicked, if_neg hpanicked, ← saveBehind_run]
    exact htaken.step (Option.not_isSome_iff_eq_none.1 hpanicked) _
      (hallows _ List.mem_cons_self)

/-! ## 5. Rules -/

instance (home cwd : Location) (errand : Errand) : Decidable (errand.Outside home cwd) :=
  match errand with
  | .page directory =>
    decidable_of_iff (¬ home <+: Disk.target cwd directory)
      ⟨fun h _ heq => Errand.page.inj heq ▸ h, fun h => h directory rfl⟩
  | .save | .openDraft _ | .newDraft _ | .saveAs _ | .delete | .preset _ | .list | .theme
  | .reference => .isTrue fun _ heq => nomatch heq

instance (home : Location) (step : Step) : Decidable (step.Outside home) :=
  decidable_of_iff (∀ errand ∈ step.errand?, errand.Outside home step.session.cwd) Iff.rfl

instance (e : Editor) : Decidable (Unfailed e) :=
  decidable_of_iff (e.panicked = none ∧ ∀ cause ∈ e.failure?,
    Drafts.Written (.error cause : Except Drafts.StoreError Opened)) Iff.rfl

/-- Time passes. -/
def Elapses (s s' : Session) : Prop := ∃ now ticks, s' = { s with now := now, ticks := ticks }

/-- Another run of the program carries out a whole command for drafts on the same disk. -/
def CommandRuns (home : Location) (s s' : Session) : Prop :=
  ∃ arguments other, Shell.RunsDrafts home arguments other ∧ other.now.Proper ∧
    other.disk = s.disk ∧ other.nextToken = s.nextToken ∧
    s' = { s with
      disk := ((Shell.run arguments).run other).2.disk
      nextToken := ((Shell.run arguments).run other).2.nextToken }

namespace Rules

/-- The drafts are below `home`; other programs may do to the disk what they like. -/
def disturbed (home : Location) : Rules where
  begins settings s := Disk.target s.cwd settings.draftRoot = home
  passes s s' := s'.cwd = s.cwd
  allows _ := True

/-- The drafts are below `home`, each of them in the file of its id. Whole commands for drafts
may come between the steps, and no page is written among the drafts. -/
def shared (home : Location) : Rules where
  begins settings s :=
    Disk.target s.cwd settings.draftRoot = home ∧ Consistent home s ∧ s.now.Proper
  passes s s' := Elapses s s' ∨ CommandRuns home s s'
  allows step := step.session.now.Proper ∧ step.Outside home

/-- As `shared`, but no other program touches the disk, no file of a draft fails to be written,
and no step panics. -/
def alone (home : Location) : Rules where
  begins := (shared home).begins
  passes := Elapses
  allows step := (shared home).allows step ∧ Unfailed step.after.1

instance (home : Location) (step : Step) : Decidable ((shared home).allows step) :=
  inferInstanceAs (Decidable (step.session.now.Proper ∧ step.Outside home))

instance (home : Location) (step : Step) : Decidable ((alone home).allows step) :=
  inferInstanceAs (Decidable ((shared home).allows step ∧ Unfailed step.after.1))

end Rules

/-- An editor that is alone with its files shares them with nobody. -/
theorem Run.shared (h : Run (.alone home) log s e) : Run (.shared home) log s e :=
  h.mono (fun _ _ hbegins => hbegins) (fun _ _ => .inl) fun _ hallows => hallows.1

/-- No command changes the working directory. -/
theorem cwd_of_shared (h : (Rules.shared home).passes s s') : s'.cwd = s.cwd := by
  rcases h with ⟨_, _, rfl⟩ | ⟨_, _, -, -, -, -, rfl⟩
  · rfl
  · rfl

/-- Whole commands are less than whatever other programs may do. -/
theorem Run.disturbed (h : Run (.shared home) log s e) : Run (.disturbed home) log s e :=
  h.mono (fun _ _ hbegins => hbegins.1) (fun _ _ => cwd_of_shared) fun _ _ => trivial

/-- Wherever the surroundings leave the working directory, the editor keeps to its drafts. -/
theorem Run.settled (h : Run rules log s e)
    (hbegins : ∀ settings s, rules.begins settings s → Disk.target s.cwd settings.draftRoot = home)
    (hpasses : ∀ s s', rules.passes s s' → s'.cwd = s.cwd) : Settled home s.cwd e.work := by
  induction h with
  | start hbegun hends => exact (start_frame (hbegins _ _ hbegun) hends).2.1
  | step _ _ event _ ih => exact Step.settled ih
  | pass _ hpassed ih =>
    rw [hpasses _ _ hpassed]
    exact ih

/-- Whatever other programs do, the editor stays with its store. -/
theorem Run.settled_of_disturbed (h : Run (.disturbed home) log s e) :
    Settled home s.cwd e.work :=
  h.settled (fun _ _ hbegins => hbegins) fun _ _ hpasses => hpasses

/-- A consistent store stays so, whatever is done to it between the steps. -/
theorem consistent_of_shared (hpasses : (Rules.shared home).passes s s')
    (h : Consistent home s) : Consistent home s' := by
  rcases hpasses with ⟨_, _, rfl⟩ | ⟨arguments, other, hruns, hclock, hdisk, -, rfl⟩
  · exact h
  · have hother : Consistent home other := by
      intro x hx
      rw [hdisk]
      exact h x hx
    exact hruns.frame.consistent hclock hother

/-- **What all steps keep to** where commands come between them. -/
theorem Run.consistent (h : Run (.shared home) log s e) :
    Settled home s.cwd e.work ∧ Consistent home s := by
  induction h with
  | start hbegins hends =>
    obtain ⟨hroot, hconsistent, hclock⟩ := hbegins
    obtain ⟨hframe, hsettled, -⟩ := start_frame hroot hends
    exact ⟨hsettled, hframe.consistent hclock hconsistent⟩
  | step _ _ event hallows ih =>
    obtain ⟨hsettled, hconsistent⟩ := ih
    have hframe := Step.frame hsettled (Step.filed hconsistent) hallows.2
    exact ⟨Step.settled hsettled, hframe.consistent hallows.1 hconsistent⟩
  -- what passes meanwhile are whole commands, which leave documents in their files
  | pass _ hpasses ih =>
    obtain ⟨hsettled, hconsistent⟩ := ih
    rw [cwd_of_shared hpasses]
    exact ⟨hsettled, consistent_of_shared hpasses hconsistent⟩

/-! ## 6. A first start -/

/-- The start of the editor with a single preset. -/
def firstStart : Task StartError Editor :=
  Editor.start (.standard "/config" "/data") ⟨[Drafts.barePreset]⟩ none

/-- On an empty disk the editor starts: there is a built-in preset, and the first draft can be
written. -/
theorem isSome_firstStart :
    (firstStart.run.run Drafts.emptySession).1.toOption.isSome = true := by decide +kernel

/-- The editor on a disk that held nothing. -/
def firstEditor : Editor := (firstStart.run.run Drafts.emptySession).1.toOption.get isSome_firstStart

/-- The session behind its start. -/
def firstSession : Session := (firstStart.run.run Drafts.emptySession).2

/-- The directory for its drafts. -/
def firstHome : Location := ["data", programName]

/-- Where there are no files all documents are in the files of their ids. -/
theorem consistent_empty (home : Location) : Consistent home Drafts.emptySession := by
  intro x _ t draft heq
  cases x with
  | nil => cases heq
  | cons name outer => cases heq

/-- A run may begin there. -/
theorem begins_empty :
    (Rules.shared firstHome).begins (.standard "/config" "/data") Drafts.emptySession := by
  have hroot : Disk.target Drafts.emptySession.cwd
      (Settings.standard "/config" "/data").draftRoot = firstHome := by decide +kernel
  have hclock : Drafts.emptySession.now.Proper := by decide +kernel
  exact ⟨hroot, consistent_empty _, hclock⟩

/-- The run without steps; the examples of the modules on runs go on from it. -/
theorem run_first : Run (.alone firstHome) [] firstSession firstEditor :=
  .start begins_empty (Task.ends_toOption isSome_firstStart)

/-! ## 7. A start with a marker -/

/-- A preset with one marker and a template. -/
def markedPreset : Preset :=
  { Drafts.barePreset with
    id := "marked"
    template := "<h1>\x7b\x7btitle\x7d\x7d</h1>\n\x7b\x7bcontent\x7d\x7d\n"
    rules := (default : Markup.Rules).withMarker "b" ⟨"b", none⟩ }

/-- The start of the editor with that preset alone. -/
def markedStart : Task StartError Editor :=
  Editor.start (.standard "/config" "/data") ⟨[markedPreset]⟩ none

/-- It starts with a preset that has a marker, too. -/
theorem isSome_markedStart :
    (markedStart.run.run Drafts.emptySession).1.toOption.isSome = true := by decide +kernel

def markedEditor : Editor :=
  (markedStart.run.run Drafts.emptySession).1.toOption.get isSome_markedStart

def markedSession : Session := (markedStart.run.run Drafts.emptySession).2

/-- The run without steps for the preset with a marker. -/
theorem run_marked
    (hbegins : rules.begins (.standard "/config" "/data") Drafts.emptySession) :
    Run rules [] markedSession markedEditor :=
  .start hbegins (Task.ends_toOption isSome_markedStart)

end MarkupDesk.Editor
