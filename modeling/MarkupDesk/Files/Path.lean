/-
`Files/Path.lean` -- paths as they are written.

A path is a text; `/` separates its components, and one that begins with `/` is
absolute. Empty components and `.` behind the first place do not count. The
functions here never look at a disk: `ancestors` is the path and what contains it,
outermost last, and the parent and the file name are read off its components.
-/
import MarkupDesk.Text.Basic

set_option autoImplicit false

namespace MarkupDesk

/-- A path: components with `/` between them. -/
abbrev Path := Text

namespace Path

/-- Does the path begin at the root? -/
def isAbsolute (p : Path) : Bool := p.head? == some '/'

/-- The places behind the components that count, and the components, from the left;
`start` is the place in the path where the first of the pieces begins. -/
def componentEnds (start : Nat) : List Text → List (Nat × Text)
  | [] => []
  | piece :: pieces =>
    let rest := componentEnds (start + piece.length + 1) pieces
    if piece = [] ∨ (piece = ['.'] ∧ start ≠ 0) then rest
    else (start + piece.length, piece) :: rest

/-- The components that count. -/
def components (p : Path) : List Text := (componentEnds 0 (Text.splitOn '/' p)).map (·.2)

/-- The path and the paths that contain it, each followed by its parent. -/
def ancestors (p : Path) : List Path :=
  match (componentEnds 0 (Text.splitOn '/' p)).reverse with
  | [] => [p]
  | _ :: outer =>
    let start : Path := if isAbsolute p then ['/'] else []
    p :: outer.map (fun place => p.take place.1) ++ [start]

/-- The path without its last component. The root and the empty path have no parent. -/
def parent? (p : Path) : Option Path := (ancestors p)[1]?

/-- The last component, if it names a file. -/
def fileName? (p : Path) : Option Text :=
  match (components p).getLast? with
  | some name => if name = ['.'] ∨ name = ['.', '.'] then none else some name
  | none => none

/-- The path of `rest` as seen from `base`. An absolute path stays what it is. -/
def join (base rest : Path) : Path :=
  if isAbsolute rest then rest
  else if base.isEmpty ∨ base.getLast? = some '/' then base ++ rest
  else base ++ '/' :: rest

/-- The path with another file name; where there was none, the name is added. -/
def withFileName (p : Path) (name : Text) : Path :=
  match fileName? p with
  | some _ => join ((parent? p).getD []) name
  | none => join p name

end Path

end MarkupDesk
