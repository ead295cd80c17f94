/-
`Panic.lean` -- where the program takes for granted what need not be.

A task that fails says why, and its caller goes on with that. A panic is no such failure: the
program ends where it stands, no caller sees anything of it, and what was done to the disk before
stays done. So a task that may panic does not end with an error of its own type but with a
`Stop`, which tells the two apart, and each caller has to say what becomes of a panic. There is
one thing in this program that panics, the first entry of an empty list (`Task.entryAt`).
-/
import MarkupDesk.Session

set_option autoImplicit false

namespace MarkupDesk

/-- What the program took for granted. -/
inductive Panic where
  /-- An entry of a list was taken at an index at which there is none. -/
  | outOfBounds (length index : Nat)
  deriving DecidableEq, Repr

namespace Panic

/-- What is said of the panic. -/
def message : Panic → Text
  | .outOfBounds length index =>
    "index out of bounds: the len is " ++ Text.ofNat length ++ " but the index is "
      ++ Text.ofNat index

/-- The exit code of a program that panics. -/
def exitCode : Nat := 101

end Panic

/-- Why a task has ended without a result: it has failed, and its caller is told, or it has
panicked, and nothing is done any more. -/
inductive Stop (ε : Type) where
  | failed (problem : ε)
  | panicked (panic : Panic)
  deriving DecidableEq, Repr

namespace Stop

variable {ε ε' α : Type}

/-- The stop with another error in the place of its own. A panic is what it was. -/
def map (f : ε → ε') : Stop ε → Stop ε'
  | .failed problem => .failed (f problem)
  | .panicked panic => .panicked panic

/-- Has the task that ended so panicked? -/
def isPanic : Except (Stop ε) α → Bool
  | .error (.panicked _) => true
  | _ => false

end Stop

namespace Task

variable {ε α : Type}

/-- The task where others may panic; this one does not. -/
def certain (task : Task ε α) : Task (Stop ε) α := mapError .failed task

/-- The entry of a list at an index. That there is one is taken for granted. -/
def entryAt (items : List α) (index : Nat) : Task (Stop ε) α :=
  match items[index]? with
  | some item => pure item
  | none => throw (.panicked (.outOfBounds items.length index))

end Task

end MarkupDesk
