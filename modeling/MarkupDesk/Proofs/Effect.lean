/-
`Proofs/Effect.lean` -- what tasks may change.

What a task may change, however it ends, is a relation between the session before it and the
one behind it. Where the relation is one of `Chains`, steps that keep to it make up tasks that
keep to it, so it is enough to look at the single operations. Paths are taken from the working
directory, which no task changes; so what a task `Does` is said for one working directory.
-/
import MarkupDesk.Proofs.Task

set_option autoImplicit false

namespace MarkupDesk

open Files (Location)

/-- Steps that keep to the relation, one after the other, keep to it. -/
structure Chains (R : Session → Session → Prop) : Prop where
  refl : ∀ s, R s s
  trans : ∀ {s between after}, R s between → R between after → R s after
  cwd : ∀ {s after}, R s after → after.cwd = s.cwd

/-- Nothing but the disk has changed. -/
def OnlyDisk (s after : Session) : Prop := after = { s with disk := after.disk }

/-- Tasks that touch the disk alone make up tasks that touch the disk alone; the clock, the
directories and the tokens are then what they were. -/
theorem chains_onlyDisk : Chains OnlyDisk where
  refl _ := rfl
  trans h h' := by rw [OnlyDisk, h', h]
  cwd h := by rw [h]

/-- The action looks and changes nothing. -/
def Session.Looks {α : Type} (action : StateM Session α) : Prop := ∀ s, (action.run s).2 = s

namespace Task

variable {ε ε' α β : Type} {cwd : Location} {R R' : Session → Session → Prop}

/-- However the task ends that is begun in the working directory, it keeps to the relation. -/
def Does (task : Task ε α) (cwd : Location) (R : Session → Session → Prop) : Prop :=
  ∀ (s : Session) (result : Except ε α) (after : Session), s.cwd = cwd →
    task.Ends s result after → R s after

/-- The relation holds of a run that ended, which is the form in which it is used. -/
theorem Does.ends {task : Task ε α} {s after : Session} {result : Except ε α} (h : task.Does cwd R)
    (hcwd : s.cwd = cwd) (hends : task.Ends s result after) : R s after := h s result after hcwd hends

/-- A task that keeps to a relation keeps to each weaker one. -/
theorem Does.mono {task : Task ε α} (h : task.Does cwd R) (hle : ∀ s after, R s after → R' s after) :
    task.Does cwd R' := fun s result after hcwd hends => hle s after (h s result after hcwd hends)

/-- What does nothing keeps to every relation that chains. The next lemmas say the same of the
other tasks that only look or only fail. -/
theorem does_pure (hR : Chains R) (x : α) : Does (pure x : Task ε α) cwd R := by
  intro s result after _ hends
  rw [(ends_pure.1 hends).2]
  exact hR.refl s

theorem does_throw (hR : Chains R) (problem : ε) : Does (throw problem : Task ε α) cwd R := by
  intro s result after _ hends
  rw [(ends_throw.1 hends).2]
  exact hR.refl s

theorem does_ofExcept (hR : Chains R) (result : Except ε α) : Does (ofExcept result) cwd R := by
  intro s result after _ hends
  rw [(ends_ofExcept.1 hends).2]
  exact hR.refl s

/-- To look at the session is to change nothing of it. -/
theorem does_lift (hR : Chains R) {action : StateM Session α} (h : Session.Looks action) :
    Does (lift action : Task ε α) cwd R := by
  intro s result after _ hends
  rw [(ends_lift.1 hends).2, h s]
  exact hR.refl s

theorem does_get (hR : Chains R) : Does (get : Task ε Session) cwd R := by
  intro s result after _ hends
  rw [(ends_get.1 hends).2]
  exact hR.refl s

/-- **Sequences.** The second part begins where the first one ended, in the same working
directory. If the first part fails, what it did is all. -/
theorem does_bind (hR : Chains R) {first : Task ε α} {rest : α → Task ε β} (hfirst : first.Does cwd R)
    (hrest : ∀ x, (rest x).Does cwd R) : (first >>= rest).Does cwd R := by
  intro s result after hcwd hends
  rcases ends_bind.1 hends with ⟨problem, hends, -⟩ | ⟨x, between, hends, hends'⟩
  · exact hfirst.ends hcwd hends
  · have hstep := hfirst.ends hcwd hends
    exact hR.trans hstep ((hrest x).ends ((hR.cwd hstep).trans hcwd) hends')

/-- Computing with the result changes nothing more. -/
theorem does_map {f : α → β} {task : Task ε α} (h : task.Does cwd R) : (f <$> task).Does cwd R := by
  intro s result after hcwd hends
  obtain ⟨outcome, hends, -⟩ := ends_map.1 hends
  exact h.ends hcwd hends

/-- Neither does giving the error another type. -/
theorem does_mapError {f : ε → ε'} {task : Task ε α} (h : task.Does cwd R) :
    (mapError f task).Does cwd R := by
  intro s result after hcwd hends
  obtain ⟨outcome, hends, -⟩ := ends_mapError.1 hends
  exact h.ends hcwd hends

theorem does_certain {task : Task ε α} (h : task.Does cwd R) : (certain task).Does cwd R :=
  does_mapError h

/-- A panic changes nothing any more. -/
theorem does_entryAt (hR : Chains R) (items : List α) (index : Nat) :
    (entryAt items index : Task (Stop ε) α).Does cwd R := by
  unfold entryAt
  split
  · exact does_pure hR _
  · exact does_throw hR _

/-- A task that is allowed to fail does what it does, and its error becomes a result. -/
theorem does_attempt {task : Task ε α} (h : task.Does cwd R) :
    (attempt task : Task ε' (Except ε α)).Does cwd R := by
  intro s result after hcwd hends
  rw [(ends_lift.1 hends).2]
  exact h.ends hcwd rfl

end Task

end MarkupDesk
