/-
`Session.lean` -- the surroundings in which a task runs.

A session is what a task may look at and change: the disk, the directories for
configuration and data, the clock and a source of tokens. A task of type
`Task ε α` runs in a session and ends with a result or an error of type `ε`; the
session after it is there in both cases, so what was done before an error stays done.
-/
import MarkupDesk.Calendar.Timestamp
import MarkupDesk.Files.Disk
import MarkupDesk.Text.Quoted

set_option autoImplicit false

namespace MarkupDesk

open Files (Disk Location)
open Calendar (Timestamp)

/-- The surroundings of a task. -/
structure Session where
  disk : Disk
  /-- The directory in which relative paths begin. -/
  cwd : Location
  /-- The directory for configuration. -/
  configHome : Path
  /-- The directory for data. -/
  dataHome : Path
  /-- The command that opens a file in an editor, if one is configured. -/
  editor : Option Text
  now : Timestamp
  /-- Milliseconds of a clock that is never set back. -/
  ticks : Nat
  /-- The number that the next token is made of. -/
  nextToken : Nat
  deriving Repr

/-- What runs in a session and ends with a result or an error. What cannot fail has the
type `StateM Session α`, and `Task.lift` makes it a step of a task. -/
abbrev Task (ε α : Type) := ExceptT ε (StateM Session) α

namespace Session

/-- The number of hexadecimal digits of a token. -/
def tokenDigits : Nat := 12

/-- A token that was not given out before, as long as there are any. -/
def freshToken : StateM Session Text := do
  let s ← get
  set { s with nextToken := s.nextToken + 1 }
  return Text.hexPadded tokenDigits (s.nextToken % Nat.pow 16 tokenDigits)

end Session

namespace Task

variable {ε ε' α : Type}

/-- The task with another error in the place of its own. -/
def mapError (f : ε → ε') (task : Task ε α) : Task ε' α := ExceptT.adapt f task

/-- The task that does what cannot fail. -/
def lift (action : StateM Session α) : Task ε α := ExceptT.lift action

/-- The task that ends with the result or the error of another one, and never fails. -/
def attempt (task : Task ε α) : Task ε' (Except ε α) := lift task.run

/-- The task that ends as `result` tells. -/
def ofExcept (result : Except ε α) : Task ε α := ExceptT.mk (pure result)

end Task

end MarkupDesk
