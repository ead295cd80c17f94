/-
`Html/Escape.lean` -- characters that a page must not contain as they are.

Five characters have a meaning in HTML; each is written as its entity and every
other character as itself. The function works character by character, so the
escape of a concatenation is the concatenation of the escapes
(`escape_append`): text can be escaped piece by piece.
-/
import MarkupDesk.Text.Basic

set_option autoImplicit false

namespace MarkupDesk.Html

/-- What stands for one character in a page. -/
def escapeChar : Char → Text
  | '&' => ['&', 'a', 'm', 'p', ';']
  | '<' => ['&', 'l', 't', ';']
  | '>' => ['&', 'g', 't', ';']
  | '"' => ['&', 'q', 'u', 'o', 't', ';']
  | '\'' => ['&', '#', '0', '3', '9', ';']
  | c => [c]

/-- The text with each of `&`, `<`, `>`, `"` and `'` written as its entity. -/
def escape (t : Text) : Text := t.flatMap escapeChar

@[simp] theorem escape_nil : escape [] = [] := rfl

@[simp] theorem escape_cons (c : Char) (t : Text) : escape (c :: t) = escapeChar c ++ escape t := by
  simp [escape]

theorem escape_append (s t : Text) : escape (s ++ t) = escape s ++ escape t := by
  simp [escape]

end MarkupDesk.Html
