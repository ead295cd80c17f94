/-
`Markup/Expansion.lean` -- replacing markers by elements.

One key is expanded in one sweep from left to right: find the opener `{key:`,
take everything up to the next `}` as the content, whatever it holds, and go on
behind that brace. An opener directly followed by `}` has no content and stays,
and the search goes on one character later; an opener with no `}` behind it ends
the sweep. The keys of a map are expanded one after the other, so a later key
reads the elements that an earlier one has written.
-/
import MarkupDesk.Text.Blank
import MarkupDesk.Html.Escape
import MarkupDesk.Markup.Marker

set_option autoImplicit false

namespace MarkupDesk.Markup

/-- What a marker with this key begins with. -/
def opener (key : Text) : Text := '{' :: key ++ [':']

/-- The element for a marker's content. The content is escaped here although the
line that it stands in is escaped already. -/
def MarkerSpec.elementOf (spec : MarkerSpec) (content : Text) : Text :=
  spec.element (Html.escape (Text.trim content))

/-- Every `{key:content}` of the text replaced by the element of `spec`. -/
def expandKey (key : Text) (spec : MarkerSpec) (t : Text) : Text :=
  match _h : Text.breakOn? (opener key) t with
  | none => t
  | some (before, body) =>
    match _hb : Text.splitOnce? '}' body with
    | none => t
    | some (content, behind) =>
      if content.isEmpty then
        before ++ '{' :: expandKey key spec (key ++ ':' :: body)
      else
        before ++ spec.elementOf content ++ expandKey key spec behind
termination_by t.length
decreasing_by
  · have := Text.length_of_breakOn? _h
    simp only [opener, List.length_append, List.length_cons, List.length_nil] at *
    omega
  · have h₁ := Text.length_of_breakOn? _h
    have h₂ := Text.length_of_breakOn? _hb
    simp only [opener, List.length_append, List.length_cons, List.length_nil] at *
    omega

/-- The markers of every configured key expanded, key by key in order. -/
def expandAll (markers : List (Text × MarkerSpec)) (t : Text) : Text :=
  markers.foldl (fun text entry => expandKey entry.1 entry.2 text) t

/-- The markers of a map expanded; without a map the text stays as it is. -/
def expandMarkers (markers : Option MarkerMap) (t : Text) : Text :=
  match markers with
  | none => t
  | some map => expandAll map.entries t

end MarkupDesk.Markup
