/-
`Screen/Geometry.lean` -- rectangles on a terminal, and where things go.

Coordinates are counted in character cells and never pass 65535: a sum that would
is 65535. An area is limited to 65535 cells as well; a larger rectangle is shrunk
with its proportions kept (`Rect.limited`).
-/
import MarkupDesk.Number.Binary64

set_option autoImplicit false

namespace MarkupDesk.Screen

open Number (Binary64)

/-- The greatest coordinate, and the greatest number of cells of an area. -/
def limit : Nat := 65535

/-- A sum that stops at the greatest coordinate. -/
def cap (n : Nat) : Nat := min n limit

/-- A rectangle: its top left cell and its size. -/
structure Rect where
  x : Nat
  y : Nat
  width : Nat
  height : Nat
  deriving DecidableEq, Repr

namespace Rect

/-- The column behind the rectangle. -/
def right (r : Rect) : Nat := cap (r.x + r.width)

/-- The row behind the rectangle. -/
def bottom (r : Rect) : Nat := cap (r.y + r.height)

/-- A size with the same proportions whose area is within the limit. -/
def shrink? (width height : Nat) : Option (Nat × Nat) := do
  let proportion ← Binary64.div? (← Binary64.ofNat? width) (← Binary64.ofNat? height)
  let shrunkHeight ← Binary64.sqrt? (← Binary64.div? (← Binary64.ofNat? limit) proportion)
  let shrunkWidth ← Binary64.mul? shrunkHeight proportion
  return (cap shrunkWidth.floor, cap shrunkHeight.floor)

/-- The rectangle with this corner and size, shrunk if its area is beyond the limit. -/
def limited (x y width height : Nat) : Rect :=
  if limit < width * height then
    match shrink? width height with
    | some (width, height) => ⟨x, y, width, height⟩
    | none => ⟨x, y, width, height⟩
  else ⟨x, y, width, height⟩

/-- The size inside a border one cell wide; at least one cell. -/
def innerSize (r : Rect) : Nat × Nat := (max (r.width - 2) 1, max (r.height - 2) 1)

end Rect

/-! ## 1. The popup -/

/-- A popup of the given size one row below the caret, moved left and, where there is
no room below, above the caret so that it stays inside the bounds. -/
def popupRect (caret : Nat × Nat) (width height : Nat) (bounds : Rect) : Rect :=
  let width := max (min width bounds.width) 1
  let height := max (min height bounds.height) 1
  let x := max (min caret.1 (bounds.right - width)) bounds.x
  let below := cap (caret.2 + 1)
  let y :=
    if cap (below + height) ≤ bounds.bottom then below else max (caret.2 - height) bounds.y
  Rect.limited x y width height

/-! ## 2. The panes -/

/-- `n` parts of `m` of a length, rounded to the nearest cell, a half up. -/
def portion (n m length : Nat) : Nat := (2 * n * length + m) / (2 * m)

/-- Where everything is drawn. -/
structure Layout where
  main : Rect
  status : Rect
  editor : Rect
  preview : Rect
  /-- The reference sheet, unless it is collapsed. -/
  reference : Option Rect
  /-- The list of drafts, drawn over the panes. -/
  picker : Rect
  deriving DecidableEq, Repr

/-- The width of the reference sheet when there is room for it. -/
def referenceWidth : Nat := 34

/-- The columns that the editor and the preview keep before the reference sheet gets any. -/
def bodyMinimum : Nat := 40

/-- The layout of a terminal of the given size, or of as much of it as an area may hold:
the status line at the bottom, the reference sheet on the right, and the rest halved
between editor and preview. -/
def layout (collapsed : Bool) (width height : Nat) : Layout :=
  let area := Rect.limited 0 0 width height
  let width := area.width
  let height := area.height
  let mainHeight := max (height - 1) (min height 1)
  let referenceColumns := if collapsed then 0 else min referenceWidth (width - bodyMinimum)
  let body := width - referenceColumns
  let half := portion 1 2 body
  let left := portion 1 4 width
  let right := portion 3 4 width
  let top := portion 1 5 mainHeight
  let bottom := portion 4 5 mainHeight
  { main := ⟨0, 0, width, mainHeight⟩
    status := ⟨0, mainHeight, width, height - mainHeight⟩
    editor := ⟨0, 0, half, mainHeight⟩
    preview := ⟨half, 0, body - half, mainHeight⟩
    reference := if collapsed then none else some ⟨body, 0, referenceColumns, mainHeight⟩
    picker := ⟨left, top, right - left, bottom - top⟩ }

end MarkupDesk.Screen
