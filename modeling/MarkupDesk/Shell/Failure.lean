/-
`Shell/Failure.lean` -- how a failure is told to the user.
-/
import MarkupDesk.Text.Basic

set_option autoImplicit false

namespace MarkupDesk.Shell

/-- A message, and the messages of what brought it about, the nearest first. -/
structure Failure where
  message : Text
  causes : List Text
  deriving DecidableEq, Repr

namespace Failure

/-- A failure without a cause. -/
def plain (message : Text) : Failure := ⟨message, []⟩

/-- A failure in which something else failed. -/
def because (message cause : Text) : Failure := ⟨message, [cause]⟩

/-- The text with every line break followed by blanks. -/
def indentLines (blanks : Nat) (t : Text) : Text :=
  t.flatMap fun c => if c = '\n' then '\n' :: Text.spaces blanks else [c]

/-- A cause among several. -/
def numberedCause (number : Nat) (cause : Text) : Text :=
  Text.spaces 4 ++ Text.ofNat number ++ ':' :: ' ' :: indentLines 7 cause

/-- The causes, one below the other; several are numbered. -/
def causeLines : List Text → List Text
  | [cause] => [Text.spaces 4 ++ indentLines 4 cause]
  | causes => causes.zipIdx.map fun (cause, number) => numberedCause number cause

/-- The report of a failure that ends the program. -/
def report (failure : Failure) : Text :=
  let causes : Text :=
    if failure.causes.isEmpty then []
    else "\n\nCaused by:" ++ (causeLines failure.causes).flatMap ('\n' :: ·)
  "Error: " ++ failure.message ++ causes ++ ['\n']

/-- The failure on one line. -/
def oneLine (failure : Failure) : Text :=
  Text.join ": " (failure.message :: failure.causes)

end Failure

end MarkupDesk.Shell
