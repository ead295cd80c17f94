/-
`Text/Lower.lean` -- full lower-casing.

Every character is lower-cased by itself, with two exceptions: a dotted capital I
becomes two characters, and a capital sigma becomes the final form `ς` exactly
when it ends a word. It ends a word when, case-ignorable characters left out of
account, a cased character stands before it and none behind it.
-/
import MarkupDesk.Text.Ranges
import MarkupDesk.Text.CaseTable

set_option autoImplicit false

namespace MarkupDesk.Text

/-- The run of lower-case mappings that the code point belongs to. -/
def LowerRun.covers (run : LowerRun) (n : Nat) : Bool :=
  run.first ≤ n && n ≤ run.last && (n - run.first) % run.step == 0

/-- The lower-case form of a character, wherever it stands. -/
def lowerChar (c : Char) : Text :=
  let n := c.toNat
  if n < 0x80 then [c.toLower]
  else if n == 0x130 then ['i', '\u0307']
  else
    match lowerRuns.find? (·.covers n) with
    | some run => [Char.ofNat (n + run.distance).toNat]
    | none => [c]

/-- Is the first character that is not case-ignorable a cased one? -/
def seesCased (t : Text) : Bool :=
  match t.dropWhile (inRanges caseIgnorableRanges) with
  | [] => false
  | c :: _ => inRanges casedRanges c

/-- Lower-casing behind the reversed text `before`. -/
def lowerBehind (before : Text) : Text → Text
  | [] => []
  | c :: rest =>
    let lowered :=
      if c == 'Σ' then
        if seesCased before && !seesCased rest then ['ς'] else ['σ']
      else lowerChar c
    lowered ++ lowerBehind (c :: before) rest

/-- The text in lower case. -/
def lower (t : Text) : Text := lowerBehind [] t

end MarkupDesk.Text
