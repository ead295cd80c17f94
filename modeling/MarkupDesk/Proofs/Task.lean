/-
`Proofs/Task.lean` -- how tasks end.

A task that runs in a session `Ends` with a result and a session. The lemmas take a task
apart in the order in which it runs: what a sequence did is what its first part did and
then what the rest did from there, and an error of the first part is the end of it. Where a task
may panic, this is so for a panic as well; the parts of it that do not panic end as they do
elsewhere, but for the type of their errors (`ends_certain`).
-/
import MarkupDesk.Files.Access
import MarkupDesk.Panic

set_option autoImplicit false

namespace MarkupDesk

/-- What a sequence does that cannot fail. -/
theorem Session.run_bind {α β : Type} (first : StateM Session α) (rest : α → StateM Session β)
    (s : Session) : (first >>= rest).run s = (rest (first.run s).1).run (first.run s).2 := rfl

/-- What does nothing leaves the session as it is. -/
theorem Session.run_pure {α : Type} (x : α) (s : Session) : (pure x : StateM Session α).run s = (x, s) :=
  rfl

namespace Task

variable {ε ε' α β : Type} {s after : Session}

/-- The task, begun in the session `s`, ends with the result and leaves the session `after`. -/
def Ends (task : Task ε α) (s : Session) (result : Except ε α) (after : Session) : Prop :=
  task.run.run s = (result, after)

/-- A task that only has a result ends with it, in the session in which it began. The lemmas
below say of each other form of task how it ends; all proofs about tasks go through them, and
none looks at how tasks are represented. -/
theorem ends_pure {x : α} {result : Except ε α} :
    Ends (pure x) s result after ↔ result = .ok x ∧ after = s := by
  constructor
  · intro h
    obtain ⟨hresult, hafter⟩ := Prod.mk.inj h
    exact ⟨hresult.symm, hafter.symm⟩
  · rintro ⟨rfl, rfl⟩
    rfl

/-- A task that fails ends with its error and changes nothing more. -/
theorem ends_throw {problem : ε} {result : Except ε α} :
    Ends (throw problem) s result after ↔ result = .error problem ∧ after = s := by
  constructor
  · intro h
    obtain ⟨hresult, hafter⟩ := Prod.mk.inj h
    exact ⟨hresult.symm, hafter.symm⟩
  · rintro ⟨rfl, rfl⟩
    rfl

/-- To look at the session is to end with it. -/
theorem ends_get {result : Except ε Session} :
    Ends (get : Task ε Session) s result after ↔ result = .ok s ∧ after = s := by
  constructor
  · intro h
    obtain ⟨hresult, hafter⟩ := Prod.mk.inj h
    exact ⟨hresult.symm, hafter.symm⟩
  · rintro ⟨rfl, rfl⟩
    rfl

/-- What cannot fail ends with its result. -/
theorem ends_lift {action : StateM Session α} {result : Except ε α} :
    Ends (lift action) s result after ↔ result = .ok (action.run s).1 ∧ after = (action.run s).2 := by
  constructor
  · intro h
    obtain ⟨hresult, hafter⟩ := Prod.mk.inj h
    exact ⟨hresult.symm, hafter.symm⟩
  · rintro ⟨rfl, rfl⟩
    rfl

theorem ends_set {next : Session} {result : Except ε PUnit} :
    Ends (set next : Task ε PUnit) s result after ↔ result = .ok ⟨⟩ ∧ after = next := by
  constructor
  · intro h
    obtain ⟨hresult, hafter⟩ := Prod.mk.inj h
    exact ⟨hresult.symm, hafter.symm⟩
  · rintro ⟨rfl, rfl⟩
    rfl

/-- A task that ends as a given result tells. -/
theorem ends_ofExcept {outcome result : Except ε α} :
    Ends (ofExcept outcome) s result after ↔ result = outcome ∧ after = s := by
  constructor
  · intro h
    obtain ⟨hresult, hafter⟩ := Prod.mk.inj h
    exact ⟨hresult.symm, hafter.symm⟩
  · rintro ⟨rfl, rfl⟩
    rfl

/-- What a sequence does. Either its first part failed, and then the second one was not begun
and the session is that of the failure; or the second part went on from where the first one
ended. -/
theorem ends_bind {first : Task ε α} {rest : α → Task ε β} {result : Except ε β} :
    Ends (first >>= rest) s result after ↔
      (∃ problem, first.Ends s (.error problem) after ∧ result = .error problem) ∨
        ∃ x between, first.Ends s (.ok x) between ∧ (rest x).Ends between result after := by
  -- an error ends the sequence and leaves the session as it is then
  have hrun : (first >>= rest).run.run s = match first.run.run s with
      | (.ok x, between) => (rest x).run.run between
      | (.error problem, between) => (.error problem, between) := by
    simp only [ExceptT.run_bind, StateT.run_bind]
    cases hfirst : first.run.run s with
    | mk outcome between => cases outcome <;> rfl
  unfold Ends
  rw [hrun]
  cases hfirst : first.run.run s with
  | mk outcome between =>
    cases outcome with
    | error problem =>
      -- the two ends of the first part are the two sides of the statement
      constructor
      · intro h
        obtain ⟨rfl, rfl⟩ := Prod.mk.inj h
        exact .inl ⟨problem, rfl, rfl⟩
      · rintro (⟨other, hother, rfl⟩ | ⟨x, mid, hok, -⟩)
        · obtain ⟨hproblem, rfl⟩ := Prod.mk.inj hother
          rw [Except.error.inj hproblem]
        · cases (Prod.mk.inj hok).1
    | ok x =>
      constructor
      · intro h
        exact .inr ⟨x, between, rfl, h⟩
      · rintro (⟨problem, herror, -⟩ | ⟨y, mid, hok, hrest⟩)
        · cases (Prod.mk.inj herror).1
        · obtain ⟨hvalue, rfl⟩ := Prod.mk.inj hok
          rw [Except.ok.inj hvalue]
          exact hrest

/-- What a sequence did that ended well. -/
theorem ends_bind_ok {first : Task ε α} {rest : α → Task ε β} {y : β} :
    Ends (first >>= rest) s (.ok y) after ↔
      ∃ x between, first.Ends s (.ok x) between ∧ (rest x).Ends between (.ok y) after := by
  rw [ends_bind]
  constructor
  · rintro (⟨problem, -, herror⟩ | hok)
    · cases herror
    · exact hok
  · exact .inr

/-- What follows a failure is not run. -/
theorem ends_throw_bind {problem : ε} {rest : α → Task ε β} {result : Except ε β} :
    Ends (throw problem >>= rest) s result after ↔ result = .error problem ∧ after = s := by
  rw [ends_bind]
  constructor
  · rintro (⟨other, hthrow, rfl⟩ | ⟨x, between, hok, -⟩)
    · obtain ⟨hother, rfl⟩ := ends_throw.1 hthrow
      rw [Except.error.inj hother]
      exact ⟨rfl, rfl⟩
    · cases (ends_throw.1 hok).1
  · rintro ⟨rfl, rfl⟩
    exact .inl ⟨problem, ends_throw.2 ⟨rfl, rfl⟩, rfl⟩

/-- A sequence that begins with what cannot fail goes on with its result. -/
theorem ends_lift_bind {action : StateM Session α} {rest : α → Task ε β} {result : Except ε β} :
    Ends (lift action >>= rest) s result after ↔
      (rest (action.run s).1).Ends (action.run s).2 result after := by
  rw [ends_bind]
  constructor
  · rintro (⟨problem, herror, -⟩ | ⟨x, between, hlift, hrest⟩)
    · cases (ends_lift.1 herror).1
    · obtain ⟨hx, rfl⟩ := ends_lift.1 hlift
      rwa [← Except.ok.inj hx]
  · intro h
    exact .inr ⟨_, _, ends_lift.2 ⟨rfl, rfl⟩, h⟩

/-- A sequence that begins with a look at the session goes on with what it saw. -/
theorem ends_get_bind {rest : Session → Task ε β} {result : Except ε β} :
    Ends (get >>= rest) s result after ↔ (rest s).Ends s result after := by
  rw [ends_bind]
  constructor
  · rintro (⟨problem, herror, -⟩ | ⟨x, between, hget, hrest⟩)
    · cases (ends_get.1 herror).1
    · obtain ⟨hx, rfl⟩ := ends_get.1 hget
      rwa [Except.ok.inj hx] at hrest
  · intro h
    exact .inr ⟨_, _, ends_get.2 ⟨rfl, rfl⟩, h⟩

/-- Computing with the result of a task: an error stays the error that it was. -/
theorem ends_map {f : α → β} {task : Task ε α} {result : Except ε β} :
    Ends (f <$> task) s result after ↔ ∃ outcome, task.Ends s outcome after ∧ result = outcome.map f := by
  have hrun : (f <$> task).run.run s = ((task.run.run s).1.map f, (task.run.run s).2) := by
    rw [ExceptT.run_map, StateT.run_map]
    rfl
  unfold Ends
  rw [hrun]
  constructor
  · intro h
    obtain ⟨hresult, hafter⟩ := Prod.mk.inj h
    exact ⟨(task.run.run s).1, Prod.ext rfl hafter, hresult.symm⟩
  · rintro ⟨outcome, htask, rfl⟩
    rw [htask]

/-- A task with another error in the place of its own ends as that one does, but for the
error. -/
theorem ends_mapError {f : ε → ε'} {task : Task ε α} {result : Except ε' α} :
    Ends (mapError f task) s result after ↔
      ∃ outcome, task.Ends s outcome after ∧ result = outcome.mapError f := by
  have hrun : (mapError f task).run.run s =
      ((task.run.run s).1.mapError f, (task.run.run s).2) := rfl
  unfold Ends
  rw [hrun]
  constructor
  · intro h
    obtain ⟨hresult, hafter⟩ := Prod.mk.inj h
    exact ⟨(task.run.run s).1, Prod.ext rfl hafter, hresult.symm⟩
  · rintro ⟨outcome, htask, rfl⟩
    rw [htask]

/-- If it ended well, there is nothing to translate. -/
theorem ends_mapError_ok {f : ε → ε'} {task : Task ε α} {x : α} :
    Ends (mapError f task) s (.ok x) after ↔ task.Ends s (.ok x) after := by
  rw [ends_mapError]
  constructor
  · rintro ⟨outcome, htask, hresult⟩
    cases outcome with
    | ok y =>
      rw [Except.ok.inj hresult]
      exact htask
    | error problem => cases hresult
  · intro htask
    exact ⟨.ok x, htask, rfl⟩

/-- A sequence that begins with a task that may fail, and goes on in either case. What the
task did before it failed is there for the second part. -/
theorem ends_attempt_bind {task : Task ε α} {rest : Except ε α → Task ε' β} {result : Except ε' β} :
    Ends (attempt task >>= rest) s result after ↔
      ∃ outcome between, task.Ends s outcome between ∧ (rest outcome).Ends between result after := by
  rw [attempt, ends_lift_bind]
  constructor
  · intro h
    exact ⟨_, _, rfl, h⟩
  · rintro ⟨outcome, between, htask, hrest⟩
    have houtcome : task.run.run s = (outcome, between) := htask
    rwa [houtcome]

/-- A task that does not panic ends as it does elsewhere. -/
theorem ends_certain {task : Task ε α} {result : Except (Stop ε) α} :
    Ends (certain task) s result after ↔
      ∃ outcome, task.Ends s outcome after ∧ result = outcome.mapError .failed :=
  ends_mapError

/-- What becomes of a result and what becomes of an error have nothing to do with each other. -/
theorem map_mapError (f : ε → ε') (g : α → β) (outcome : Except ε α) :
    (outcome.mapError f).map g = (outcome.map g).mapError f := by
  cases outcome <;> rfl

/-- The same, where something is computed with the result. -/
theorem ends_certain_map {f : α → β} {task : Task ε α} {result : Except (Stop ε) β} :
    Ends (certain (f <$> task)) s result after ↔
      ∃ outcome, task.Ends s outcome after ∧ result = (outcome.map f).mapError .failed := by
  rw [ends_certain]
  constructor
  · rintro ⟨mapped, hends, rfl⟩
    obtain ⟨outcome, houtcome, rfl⟩ := ends_map.1 hends
    exact ⟨outcome, houtcome, rfl⟩
  · rintro ⟨outcome, houtcome, rfl⟩
    exact ⟨_, ends_map.2 ⟨outcome, houtcome, rfl⟩, rfl⟩

/-- What a sequence does that begins with a task that does not panic: it fails there, with an
error that says so, or goes on. There is no third case, which is what the callers want to
hear. -/
theorem ends_certain_bind {first : Task ε α} {rest : α → Task (Stop ε) β}
    {result : Except (Stop ε) β} :
    Ends (certain first >>= rest) s result after ↔
      (∃ problem, first.Ends s (.error problem) after ∧ result = .error (.failed problem)) ∨
        ∃ x between, first.Ends s (.ok x) between ∧ (rest x).Ends between result after := by
  rw [ends_bind]
  constructor
  · rintro (⟨stop, hends, rfl⟩ | ⟨x, between, hends, hrest⟩)
    · obtain ⟨outcome, houtcome, heq⟩ := ends_certain.1 hends
      cases outcome with
      | ok x => cases heq
      | error problem => exact .inl ⟨problem, houtcome, by rw [Except.error.inj heq]⟩
    · exact .inr ⟨x, between, ends_mapError_ok.1 hends, hrest⟩
  · rintro (⟨problem, hends, rfl⟩ | ⟨x, between, hends, hrest⟩)
    · exact .inl ⟨_, ends_certain.2 ⟨_, hends, rfl⟩, rfl⟩
    · exact .inr ⟨x, between, ends_mapError_ok.2 hends, hrest⟩

/-- Two tasks are the same if the one ends as the other does. It is enough to look in one
direction, because every task ends in exactly one way. -/
theorem ends_ext {first second : Task ε α}
    (h : ∀ s result after, Ends first s result after → Ends second s result after) :
    first = second := by
  funext s
  exact (h s _ _ rfl).symm

/-- Where no part of a sequence panics, the sequence does not. So a task that was written for
callers that do not know panics can be used by those that do, in one piece or in several. -/
theorem certain_bind {first : Task ε α} {rest : α → Task ε β} :
    certain (first >>= rest) = certain first >>= fun x => certain (rest x) := by
  refine ends_ext fun s result after h => ?_
  obtain ⟨outcome, hends, rfl⟩ := ends_certain.1 h
  rw [ends_certain_bind]
  rcases ends_bind.1 hends with ⟨problem, hfirst, rfl⟩ | ⟨x, between, hfirst, hrest⟩
  · exact .inl ⟨problem, hfirst, rfl⟩
  · exact .inr ⟨x, between, hfirst, ends_certain.2 ⟨outcome, hrest, rfl⟩⟩

theorem certain_pure {x : α} : certain (pure x : Task ε α) = pure x := rfl

/-- A task ends with what running it gives. -/
theorem ends_of_fst_eq {task : Task ε α} {result : Except ε α} (h : (task.run.run s).1 = result) :
    Ends task s result (task.run.run s).2 := Prod.ext h rfl

/-- A task that ends well ends with the result that it gives. -/
theorem ends_toOption {task : Task ε α} (h : (task.run.run s).1.toOption.isSome = true) :
    Ends task s (.ok ((task.run.run s).1.toOption.get h)) (task.run.run s).2 := by
  have hok : ∀ (result : Except ε α) (h : result.toOption.isSome = true),
      result = .ok (result.toOption.get h) := by
    intro result h
    cases result with
    | ok x => rfl
    | error problem => cases h
  exact ends_of_fst_eq (hok _ h)

end Task

end MarkupDesk
