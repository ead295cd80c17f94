/-
`Proofs/Composed.lean` -- actions that are made of steps.

An action is `Composed` of steps of a kind if it does such steps one after the other, where what one
step finds may decide how it goes on. This says more than what the action changes: nothing is done
on the way but such steps, and nothing else is looked at either. So what each step leaves behind
holds of the whole action (`Composed.keeps`), and where two sessions look the same to every step,
they look the same to the action (`Composed.agrees`).

Tasks are actions that end with a result or an error, so they are composed when what they run is.
-/
import MarkupDesk.Proofs.Effect

set_option autoImplicit false

namespace MarkupDesk

open Files (Location)

/-- The action is made of the steps. -/
inductive Composed (step : (α : Type) → StateM Session α → Prop) :
    {α : Type} → StateM Session α → Prop where
  | step {α : Type} {action : StateM Session α} (h : step α action) : Composed step action
  | done {α : Type} (x : α) : Composed step (pure x)
  | andThen {α β : Type} {first : StateM Session α} {rest : α → StateM Session β}
    (h : Composed step first) (hrest : ∀ x, Composed step (rest x)) : Composed step (first >>= rest)

namespace Composed

variable {step step' : (α : Type) → StateM Session α → Prop} {ε ε' α β : Type}
  {action : StateM Session α}

/-- Doing something with the result is no step. -/
theorem map (f : α → β) (h : Composed step action) : Composed step (f <$> action) := by
  rw [← bind_pure_comp]
  exact .andThen h fun x => .done (f x)

/-- Steps that are made of other ones. So a module may say what its own operations are made
of, and another what those are made of, down to single accesses of the disk. -/
theorem trans (h : Composed step action)
    (hstep : ∀ {α : Type} {action : StateM Session α}, step α action → Composed step' action) :
    Composed step' action := by
  induction h with
  | step h => exact hstep h
  | done x => exact .done x
  | andThen _ _ ih ihrest => exact .andThen ih ihrest

/-! ## 1. Tasks -/

theorem task_pure (x : α) : Composed step (pure x : Task ε α).run := .done _

/-- To fail is no step, and ends the task. -/
theorem task_throw (problem : ε) : Composed step (throw problem : Task ε α).run := .done _

/-- A sequence of tasks is composed if both parts are. Behind an error the second part is not
run, which is one way for a composed action to go on. -/
theorem task_bind {first : Task ε α} {rest : α → Task ε β} (h : Composed step first.run)
    (hrest : ∀ x, Composed step (rest x).run) : Composed step (first >>= rest).run := by
  rw [ExceptT.run_bind]
  refine .andThen h fun result => ?_
  cases result with
  | ok x => exact hrest x
  | error problem => exact .done _

/-- Giving an error another type changes nothing of what was done. -/
theorem task_mapError (f : ε → ε') {task : Task ε α} (h : Composed step task.run) :
    Composed step (Task.mapError f task).run :=
  h.map _

/-- What a task is made of does not depend on whether its caller may panic. -/
theorem task_certain {task : Task ε α} (h : Composed step task.run) :
    Composed step (Task.certain task).run :=
  task_mapError _ h

/-- Taking an entry of a list is no step, and neither is the panic where there is none. -/
theorem task_entryAt (items : List α) (index : Nat) :
    Composed step (Task.entryAt items index : Task (Stop ε) α).run := by
  unfold Task.entryAt
  split
  · exact task_pure _
  · exact task_throw _

theorem task_lift (h : Composed step action) : Composed step (Task.lift action : Task ε α).run :=
  h.map _

theorem task_attempt {task : Task ε α} (h : Composed step task.run) :
    Composed step (Task.attempt task : Task ε' (Except ε α)).run :=
  task_lift h

/-! ## 2. What steps leave behind -/

variable {cwd : Location} {R : Session → Session → Prop}

/-- **What every step keeps to**, the whole action keeps to. The induction is on how the
action is made; between two parts the relation is handed on by `Chains`, which also keeps the
working directory that the second part begins in. -/
theorem keeps (hR : Chains R)
    (hstep : ∀ {α : Type} {action : StateM Session α}, step α action →
      ∀ s : Session, s.cwd = cwd → R s (action.run s).2)
    (h : Composed step action) (s : Session) (hcwd : s.cwd = cwd) : R s (action.run s).2 := by
  induction h generalizing s with
  | step h => exact hstep h s hcwd
  | done x => exact hR.refl s
  | @andThen _ _ first _ _ _ ih ihrest =>
    have hfirst := ih s hcwd
    exact hR.trans hfirst (ihrest (first.run s).1 (first.run s).2 ((hR.cwd hfirst).trans hcwd))

/-- `keeps` for a task, as the other modules ask for it. -/
theorem does (hR : Chains R)
    (hstep : ∀ {α : Type} {action : StateM Session α}, step α action →
      ∀ s : Session, s.cwd = cwd → R s (action.run s).2)
    {task : Task ε α} (h : Composed step task.run) : task.Does cwd R := by
  intro s result after hcwd hends
  have hkept := h.keeps hR hstep s hcwd
  rwa [show task.run.run s = (result, after) from hends] at hkept

/-! ## 3. What steps look at -/

/-- **Where two sessions look the same to every step**, they look the same to the action, and
afterwards as well. What the first part finds decides which second part follows, so the
sessions have to be alike in the result too, not only in what is left. -/
theorem agrees {S : Session → Session → Prop}
    (hstep : ∀ {α : Type} {action : StateM Session α}, step α action → ∀ s s', S s s' →
      (action.run s).1 = (action.run s').1 ∧ S (action.run s).2 (action.run s').2)
    (h : Composed step action) (s s' : Session) (hsame : S s s') :
    (action.run s).1 = (action.run s').1 ∧ S (action.run s).2 (action.run s').2 := by
  induction h generalizing s s' with
  | step h => exact hstep h s s' hsame
  | done x => exact ⟨rfl, hsame⟩
  | @andThen _ _ first rest _ _ ih ihrest =>
    obtain ⟨hresult, hbetween⟩ := ih s s' hsame
    have hrest := ihrest (first.run s).1 (first.run s).2 (first.run s').2 hbetween
    rwa [Session.run_bind, Session.run_bind, ← hresult]

end Composed

end MarkupDesk
