/-
`Proofs/Files/Path.lean` -- paths that end with a plain name.

Files are reached by paths of the form `Path.join directory name` with a plain name. Such a
path has the pieces of the directory and one more (`pieces_join`), it ends with the name
(`fileName?_join`), and, where the directory ends with a plain name itself, its parent is
the directory again, letter by letter (`parent?_join`).
-/
import MarkupDesk.Files.Access
import MarkupDesk.Proofs.Text.Pieces

set_option autoImplicit false

namespace MarkupDesk

namespace Path

/-! ## 1. Plain names -/

/-- The name is one component of a path and leads nowhere but into its directory. -/
def PlainName (name : Text) : Prop :=
  name ≠ [] ∧ '/' ∉ name ∧ name ≠ ['.'] ∧ name ≠ ['.', '.']

instance (name : Text) : Decidable (PlainName name) := inferInstanceAs (Decidable (_ ∧ _ ∧ _ ∧ _))

/-- The names on the way of a path. -/
def pieces (p : Path) : List Text := (Text.splitOn '/' p).filter (!·.isEmpty)

variable {base : Path} {name : Text}

theorem PlainName.head?_ne (h : PlainName name) : name.head? ≠ some '/' := by
  obtain ⟨hne, hslash, -, -⟩ := h
  cases name with
  | nil => exact absurd rfl hne
  | cons c name =>
    rw [List.head?_cons, Ne, Option.some.injEq]
    rintro rfl
    exact hslash List.mem_cons_self

theorem PlainName.isAbsolute (h : PlainName name) : isAbsolute name = false := by
  simpa [Path.isAbsolute] using h.head?_ne

theorem join_of_getLast?_ne (h : PlainName name) (hempty : base ≠ [])
    (hlast : base.getLast? ≠ some '/') : join base name = base ++ '/' :: name := by
  have hrelative : ¬ Path.isAbsolute name = true := by simp [h.isAbsolute]
  have hnot : ¬ (base.isEmpty = true ∨ base.getLast? = some '/') := by simp [hempty, hlast]
  rw [join, if_neg hrelative, if_neg hnot]

/-- A path to a name is the name, or the name behind a separator. -/
theorem join_cases (base : Path) (h : PlainName name) :
    (base = [] ∧ join base name = name) ∨
      ∃ front, join base name = front ++ '/' :: name ∧ pieces base = pieces front ∧
        isAbsolute base = isAbsolute (front ++ ['/']) := by
  have hrelative : ¬ Path.isAbsolute name = true := by simp [h.isAbsolute]
  by_cases hempty : base = []
  · refine .inl ⟨hempty, ?_⟩
    rw [join, if_neg hrelative, if_pos (.inl (by simp [hempty])), hempty, List.nil_append]
  · refine .inr ?_
    by_cases hlast : base.getLast? = some '/'
    · obtain ⟨front, rfl⟩ := List.getLast?_eq_some_iff.1 hlast
      refine ⟨front, ?_, ?_, rfl⟩
      · rw [join, if_neg hrelative, if_pos (.inr hlast), List.append_assoc, List.singleton_append]
      · -- a separator at the end gives one more piece, which is empty
        have hsplit : Text.splitOn '/' (front ++ ['/']) = Text.splitOn '/' front ++ [[]] :=
          Text.splitOn_append '/' front []
        rw [pieces, hsplit, List.filter_append, pieces]
        simp
    · refine ⟨base, join_of_getLast?_ne h hempty hlast, rfl, ?_⟩
      obtain ⟨c, rest, rfl⟩ := List.exists_cons_of_ne_nil hempty
      rfl

theorem pieces_join (base : Path) (h : PlainName name) :
    pieces (join base name) = pieces base ++ [name] := by
  have hname : (Text.splitOn '/' name).filter (!·.isEmpty) = [name] := by
    rw [Text.splitOn_of_notMem h.2.1]
    simp [h.1]
  rcases join_cases base h with ⟨rfl, hjoin⟩ | ⟨front, hjoin, hpieces, -⟩
  · rw [hjoin, pieces, hname]
    rfl
  · rw [hjoin, pieces, Text.splitOn_append, List.filter_append, hname, hpieces, pieces]

theorem isAbsolute_join (base : Path) (h : PlainName name) :
    isAbsolute (join base name) = isAbsolute base := by
  rcases join_cases base h with ⟨rfl, hjoin⟩ | ⟨front, hjoin, -, hbase⟩
  · rw [hjoin, h.isAbsolute]
    rfl
  · rw [hjoin, hbase]
    cases front <;> rfl

theorem join_ne_nil (base : Path) (h : PlainName name) : join base name ≠ [] := by
  rcases join_cases base h with ⟨rfl, hjoin⟩ | ⟨front, hjoin, -⟩
  · rw [hjoin]
    exact h.1
  · rw [hjoin]
    simp

theorem getLast?_join (base : Path) (h : PlainName name) : (join base name).getLast? ≠ some '/' := by
  -- the last character is one of the name, since the name is not empty
  have hlast : name.getLast? ≠ some '/' := fun hl => h.2.1 (List.mem_of_getLast? hl)
  rcases join_cases base h with ⟨rfl, hjoin⟩ | ⟨front, hjoin, -⟩
  · rwa [hjoin]
  · rw [hjoin, List.getLast?_append, List.getLast?_cons_of_ne_nil h.1]
    cases hname : name.getLast? with
    | none => exact absurd (List.getLast?_eq_none_iff.1 hname) h.1
    | some c => rwa [hname] at hlast

/-! ## 2. Parents and file names -/

theorem componentEnds_append (start : Nat) (front back : List Text) :
    componentEnds start (front ++ back) = componentEnds start front ++
      componentEnds (start + (front.flatMap fun piece => piece ++ ['/']).length) back := by
  induction front generalizing start with
  | nil => simp [componentEnds]
  | cons piece front ih =>
    have hlength : start + ((piece :: front).flatMap fun piece => piece ++ ['/']).length =
        start + piece.length + 1 + (front.flatMap fun piece => piece ++ ['/']).length := by
      rw [List.flatMap_cons, List.length_append, List.length_append, List.length_singleton]
      omega
    rw [List.cons_append, componentEnds, componentEnds, ih, hlength]
    split <;> rfl

theorem componentEnds_singleton (start : Nat) (h : PlainName name) :
    componentEnds start [name] = [(start + name.length, name)] := by
  have hnot : ¬ (name = [] ∨ (name = ['.'] ∧ start ≠ 0)) := by
    rintro (hnil | ⟨hdot, -⟩)
    · exact h.1 hnil
    · exact h.2.2.1 hdot
  rw [componentEnds, if_neg hnot, componentEnds]

theorem components_of_plain (h : PlainName name) : components name = [name] := by
  rw [components, Text.splitOn_of_notMem h.2.1, componentEnds_singleton 0 h, List.map_singleton]

/-- The components of a path to a name end with the name. -/
theorem componentEnds_behind (front : Path) (h : PlainName name) :
    componentEnds 0 (Text.splitOn '/' (front ++ '/' :: name)) =
      componentEnds 0 (Text.splitOn '/' front) ++ [((front ++ '/' :: name).length, name)] := by
  rw [Text.splitOn_append, componentEnds_append, Text.flatMap_splitOn, Text.splitOn_of_notMem h.2.1,
    componentEnds_singleton _ h]
  have hlength : 0 + (front ++ ['/']).length + name.length = (front ++ '/' :: name).length := by
    simp only [List.length_append, List.length_cons, List.length_nil]
    omega
  rw [hlength]

theorem componentEnds_join (base : Path) (h : PlainName name) :
    ∃ outer, componentEnds 0 (Text.splitOn '/' (join base name)) =
      outer ++ [((join base name).length, name)] := by
  rcases join_cases base h with ⟨rfl, hjoin⟩ | ⟨front, hjoin, -⟩
  · refine ⟨[], ?_⟩
    rw [hjoin, Text.splitOn_of_notMem h.2.1, componentEnds_singleton 0 h, Nat.zero_add,
      List.nil_append]
  · rw [hjoin]
    exact ⟨_, componentEnds_behind front h⟩

theorem fileName?_join (base : Path) (h : PlainName name) : fileName? (join base name) = some name := by
  obtain ⟨outer, houter⟩ := componentEnds_join base h
  have hnot : ¬ (name = ['.'] ∨ name = ['.', '.']) := by
    rintro (hdot | hdots)
    · exact h.2.2.1 hdot
    · exact h.2.2.2 hdots
  rw [fileName?, components, houter, List.map_append, List.map_singleton, List.getLast?_concat]
  simp only
  rw [if_neg hnot]

/-- The parent of a path below a path to a name is that path. -/
theorem parent?_join {component : Text} (base : Path) (hcomponent : PlainName component)
    (h : PlainName name) :
    parent? (join (join base component) name) = some (join base component) := by
  obtain ⟨outer, houter⟩ := componentEnds_join base hcomponent
  -- `join` puts a separator in between here, since the path before it ends with a name
  have hjoin : join (join base component) name = join base component ++ '/' :: name :=
    join_of_getLast?_ne h (join_ne_nil base hcomponent) (getLast?_join base hcomponent)
  have hends := componentEnds_behind (join base component) h
  rw [houter] at hends
  rw [parent?, ancestors, hjoin, hends]
  simp

theorem withFileName_join {component other : Text} (base : Path) (hcomponent : PlainName component)
    (h : PlainName name) :
    withFileName (join (join base component) name) other = join (join base component) other := by
  rw [withFileName, fileName?_join _ h, parent?_join base hcomponent h]
  rfl

end Path

namespace Files

open MarkupDesk.Path (PlainName)

/-- The name of the sibling file of a file. -/
def siblingName (name : Text) : Text := '.' :: name ++ ".tmp"

theorem siblingPath_join {component name : Text} (base : Path) (hcomponent : PlainName component)
    (h : PlainName name) :
    siblingPath (Path.join (Path.join base component) name) =
      Path.join (Path.join base component) (siblingName name) := by
  rw [siblingPath, Path.fileName?_join _ h, Path.withFileName_join base hcomponent h]
  rfl

theorem plainName_siblingName {name : Text} (h : PlainName name) : PlainName (siblingName name) := by
  have htmp : (".tmp" : Text) = ['.', 't', 'm', 'p'] := rfl
  obtain ⟨-, hslash, -, -⟩ := h
  rw [siblingName, htmp]
  refine ⟨by simp, by simp [hslash], ?_, ?_⟩
  · intro heq
    simp at heq
  · intro heq
    have hlength := congrArg List.length heq
    simp only [List.length_append, List.length_cons, List.length_nil] at hlength
    omega

end Files

end MarkupDesk
