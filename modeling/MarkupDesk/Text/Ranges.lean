/-
`Text/Ranges.lean` -- character classes given as ranges of code points.
-/
import MarkupDesk.Text.Basic

set_option autoImplicit false

namespace MarkupDesk.Text

/-- Does the character lie in one of the ranges, ends included? -/
def inRanges (ranges : List (Nat × Nat)) (c : Char) : Bool :=
  ranges.any fun range => range.1 ≤ c.toNat && c.toNat ≤ range.2

end MarkupDesk.Text
