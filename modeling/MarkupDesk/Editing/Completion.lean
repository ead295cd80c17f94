/-
`Editing/Completion.lean` -- what typing does beyond inserting a character.

An opening character brings its closing one, a closing character typed in front of
itself is stepped over, and behind `{` the marker keys that fit are suggested. All
functions are about a text and places in it, counted in characters; a place behind
the end counts as the end.
-/
import MarkupDesk.Text.Lower

set_option autoImplicit false

namespace MarkupDesk.Editing

/-! ## 1. Pairs -/

/-- The characters that are typed in pairs. -/
def pairs : List (Char × Char) :=
  [('{', '}'), ('(', ')'), ('[', ']'), ('<', '>'), ('"', '"'), ('\'', '\'')]

/-- The closing character that an opening one brings. -/
def closingOf? (c : Char) : Option Char := (pairs.find? fun pair => pair.1 == c).map (·.2)

/-- Does the character close a pair? -/
def isClosing (c : Char) : Bool := pairs.any fun pair => pair.2 == c

/-- A text after an edit, and the selection to put back. -/
structure Edit where
  text : Text
  selectionStart : Nat
  selectionEnd : Nat
  deriving DecidableEq, Repr

/-- An edit that leaves a caret. -/
def Edit.caret (text : Text) (place : Nat) : Edit := ⟨text, place, place⟩

/-- The edit for a character typed over a selection, if it is one that opens a pair,
or closes one right in front of itself. An opening character and its closing one go
around the selection. -/
def autoPair? (t : Text) (anchor focus : Nat) (typed : Char) : Option Edit :=
  let first := min anchor focus
  let last := max anchor focus
  match closingOf? typed with
  | some closing =>
    let selected := (t.take last).drop first
    some ⟨t.take first ++ typed :: selected ++ closing :: t.drop last, first + 1, last + 1⟩
  | none =>
    if isClosing typed ∧ first = last ∧ (t.drop first).head? = some typed then
      some (.caret t (first + 1))
    else none

/-! ## 2. Marker keys -/

/-- Marker keys that fit what was typed, and the place of the `{` they belong to. -/
structure Suggestion where
  keys : List Text
  brace : Nat
  deriving DecidableEq, Repr

/-- The greatest number of keys that are suggested. -/
def maxSuggestions : Nat := 8

/-- May the character stand in the part of a key that was typed? -/
def isKeyChar (c : Char) : Bool := c.isAlphanum || c == '_' || c == '-'

/-- What stands on the cursor's line between the last `{` and the cursor. -/
def typedKey? (before : Text) : Option Text :=
  let lineBackwards := before.reverse.takeWhile (· ≠ '\n')
  let typedBackwards := lineBackwards.takeWhile (· ≠ '{')
  if typedBackwards.length < lineBackwards.length then some typedBackwards.reverse else none

/-- Does the key begin with the text, upper and lower case taken as the same? -/
def fits (typed key : Text) : Bool := (Text.lower key).startsWith (Text.lower typed)

/-- The keys to suggest at a cursor: those that begin with what was typed behind the
last `{` of the line, as long as that looks like a key. -/
def suggest? (t : Text) (cursor : Nat) (keys : List Text) : Option Suggestion :=
  let before := t.take cursor
  match typedKey? before with
  | none => none
  | some typed =>
    let found := (keys.filter (fits typed)).take maxSuggestions
    if typed.all isKeyChar ∧ !found.isEmpty then
      some ⟨found, before.length - typed.length - 1⟩
    else none

/-- The edit that puts a marker with this key in the place of what was typed from the
`{` on. The marker is closed unless a `}` follows the cursor already. -/
def applySuggestion? (t : Text) (cursor brace : Nat) (key : Text) : Option Edit :=
  if brace < cursor ∧ cursor ≤ t.length then
    let opener := '{' :: key ++ [':']
    let after := t.drop cursor
    let closing := if after.head? = some '}' then [] else ['}']
    some (.caret (t.take brace ++ opener ++ closing ++ after) (brace + opener.length))
  else none

end MarkupDesk.Editing
