/-
`Proofs/Files/Parent.lean` -- parents of paths of any form.

A path may be written with empty components, with dots, and with a `/` at its end. Its components
tell where it can be cut (`exists_cut`), and the cut before the last one gives the parent: its names
are the first names of the path (`Above`), and its own ancestors are those of the path
(`ancestors_cases`). So a path with a file name leads to that name in its parent, whatever dots
stand in between (`exists_nameIn`).
-/
import MarkupDesk.Proofs.Files.Path

set_option autoImplicit false

namespace MarkupDesk.Path

variable {p q : Path} {name : Text} {start : Nat} {ps : List Text} {outer inner : List (Nat × Text)}
  {k : Nat}

/-! ## 1. Cuts -/

/-- The pieces with a separator behind each of them. -/
def lead (ps : List Text) : Path := ps.flatMap fun piece => piece ++ ['/']

theorem lead_cons (piece : Text) (ps : List Text) : lead (piece :: ps) = piece ++ '/' :: lead ps := by
  rw [lead, List.flatMap_cons, ← lead, List.append_assoc, List.singleton_append]

theorem length_lead_cons (piece : Text) (ps : List Text) :
    (lead (piece :: ps)).length = piece.length + 1 + (lead ps).length := by
  rw [lead_cons, List.length_append, List.length_cons]
  omega

/-- A component stands among the pieces, with the components before it and behind it. -/
theorem exists_cut (h : componentEnds start ps = outer ++ (k, name) :: inner) :
    ∃ front back, ps = front ++ name :: back ∧ componentEnds start front = outer ∧
      componentEnds (start + (lead front).length) [name] = [(k, name)] ∧
      componentEnds (k + 1) back = inner := by
  induction ps generalizing start outer with
  | nil => simp [componentEnds] at h
  | cons piece ps ih =>
    rw [componentEnds] at h
    -- the cut is behind this piece, where the induction finds it
    have hlater : ∀ {outer' : List (Nat × Text)},
        componentEnds (start + piece.length + 1) ps = outer' ++ (k, name) :: inner →
        ∃ front back, ps = front ++ name :: back ∧
          componentEnds (start + piece.length + 1) front = outer' ∧
          componentEnds (start + (lead (piece :: front)).length) [name] = [(k, name)] ∧
          componentEnds (k + 1) back = inner := by
      intro outer' h
      obtain ⟨front, back, hps, hfront, hname, hback⟩ := ih h
      refine ⟨front, back, hps, hfront, ?_, hback⟩
      rw [length_lead_cons, ← Nat.add_assoc, ← Nat.add_assoc]
      exact hname
    -- empty pieces and dots are no components, so they add nothing to what is in front
    by_cases hskip : piece = [] ∨ (piece = ['.'] ∧ start ≠ 0)
    · rw [if_pos hskip] at h
      obtain ⟨front, back, rfl, hfront, hname, hback⟩ := hlater h
      refine ⟨piece :: front, back, rfl, ?_, hname, hback⟩
      rw [componentEnds, if_pos hskip, hfront]
    · rw [if_neg hskip] at h
      cases outer with
      | nil =>
        obtain ⟨hplace, hinner⟩ := List.cons.inj h
        obtain ⟨rfl, rfl⟩ := Prod.mk.inj hplace
        refine ⟨[], ps, rfl, rfl, ?_, hinner⟩
        change componentEnds start [piece] = _
        rw [componentEnds, if_neg hskip, componentEnds]
      | cons first outer =>
        obtain ⟨rfl, hrest⟩ := List.cons.inj h
        obtain ⟨front, back, rfl, hfront, hname, hback⟩ := hlater hrest
        refine ⟨piece :: front, back, rfl, ?_, hname, hback⟩
        rw [componentEnds, if_neg hskip, hfront]

theorem componentEnds_singleton_eq (h : componentEnds start [name] = [(k, name)]) :
    k = start + name.length ∧ name ≠ [] := by
  rw [componentEnds] at h
  split at h
  · cases h
  next hnot =>
    obtain ⟨hplace, -⟩ := List.cons.inj h
    exact ⟨(Prod.mk.inj hplace).1.symm, fun hnil => hnot (.inl hnil)⟩

/-- Pieces without components are empty or dots. -/
theorem dot_of_componentEnds_nil (h : componentEnds start ps = []) :
    ∀ dot ∈ ps.filter (!·.isEmpty), dot = ['.'] := by
  induction ps generalizing start with
  | nil => simp
  | cons piece ps ih =>
    rw [componentEnds] at h
    split at h
    -- a piece is passed over when it is empty or a dot; the empty ones the filter has dropped
    next hskip =>
      intro dot hdot
      rcases List.mem_cons.1 (List.mem_filter.1 hdot).1 with rfl | hlater
      · rcases hskip with rfl | ⟨hdots, -⟩
        · cases (List.mem_filter.1 hdot).2
        · exact hdots
      · exact ih h dot (List.mem_filter.2 ⟨hlater, (List.mem_filter.1 hdot).2⟩)
    · cases h

/-- Components end before the pieces do. -/
theorem lt_of_mem_componentEnds {place : Nat × Text} (h : place ∈ componentEnds start ps) :
    place.1 < start + (lead ps).length := by
  induction ps generalizing start with
  | nil => cases h
  | cons piece ps ih =>
    rw [length_lead_cons]
    rw [componentEnds] at h
    split at h
    · have hplace := ih h
      omega
    · rcases List.mem_cons.1 h with rfl | hlater
      · show start + piece.length < _
        omega
      · have hplace := ih hlater
        omega

/-- The path up to a piece, and the pieces of that. -/
theorem take_of_splitOn {front back : List Text} (h : Text.splitOn '/' p = front ++ name :: back) :
    p.take ((lead front).length + name.length) = lead front ++ name ∧
      Text.splitOn '/' (lead front ++ name) = front ++ [name] := by
  constructor
  · -- the text is its pieces with a slash behind each, but for the last one
    have htext : p ++ ['/'] = (lead front ++ name) ++ '/' :: lead back := by
      have hflat := Text.flatMap_splitOn '/' p
      rw [h, ← lead] at hflat
      rw [← hflat, lead, List.flatMap_append, ← lead, ← lead, lead_cons, List.append_assoc]
    have hlength := congrArg List.length htext
    simp only [List.length_append, List.length_cons, List.length_nil] at hlength
    have hshort : (lead front).length + name.length ≤ p.length := by omega
    have htake : p.take ((lead front).length + name.length) =
        (p ++ ['/']).take ((lead front).length + name.length) :=
      (List.take_append_of_le_length hshort).symm
    rw [htake, htext, ← List.length_append, List.take_left]
  · have hslash : ∀ piece ∈ front ++ [name], '/' ∉ piece := by
      intro piece hpiece
      refine Text.notMem_of_mem_splitOn (t := p) ?_
      rw [h]
      rcases List.mem_append.1 hpiece with hfront | hname
      · exact List.mem_append_left _ hfront
      · rw [List.mem_singleton.1 hname]
        exact List.mem_append_right _ List.mem_cons_self
    clear h
    induction front with
    | nil => exact Text.splitOn_of_notMem (hslash name List.mem_cons_self)
    | cons piece front ih =>
      rw [lead_cons, List.append_assoc, List.cons_append, Text.splitOn_append,
        Text.splitOn_of_notMem (hslash piece List.mem_cons_self),
        ih fun other hother => hslash other (List.mem_cons_of_mem _ hother)]
      rfl

/-! ## 2. Parents -/

/-- The place where a path begins, as a path. -/
def root (p : Path) : Path := if isAbsolute p then ['/'] else []

theorem ancestors_eq (h : componentEnds 0 (Text.splitOn '/' p) = outer ++ [(k, name)]) :
    ancestors p = p :: ((outer.reverse.map fun place => p.take place.1) ++ [root p]) := by
  rw [ancestors, h, List.reverse_append]
  rfl

theorem ancestors_of_nil (h : componentEnds 0 (Text.splitOn '/' p) = []) : ancestors p = [p] := by
  rw [ancestors, h]
  rfl

theorem componentEnds_root (p : Path) : componentEnds 0 (Text.splitOn '/' (root p)) = [] := by
  rw [root]
  split <;> rfl

theorem pieces_root (p : Path) : pieces (root p) = [] := by
  rw [root]
  split <;> rfl

theorem isAbsolute_root (p : Path) : isAbsolute (root p) = isAbsolute p := by
  rw [root]
  cases isAbsolute p <;> rfl

theorem root_isPrefix (p : Path) : root p <+: p := by
  rw [root]
  split
  next habsolute =>
    cases p with
    | nil => cases habsolute
    | cons c p =>
      have hc : c = '/' := by simpa [isAbsolute] using habsolute
      rw [hc]
      exact List.prefix_append ['/'] p
  next => exact List.nil_prefix

/-- Both paths begin at the same place, and the first one is a part of the second. -/
structure Above (q p : Path) : Prop where
  text : q <+: p
  absolute : isAbsolute q = isAbsolute p
  pieces : pieces q <+: pieces p

theorem Above.refl (p : Path) : Above p p := ⟨List.prefix_rfl, rfl, List.prefix_rfl⟩

theorem Above.trans {r : Path} (h : Above q p) (h' : Above p r) : Above q r :=
  ⟨h.text.trans h'.text, h.absolute.trans h'.absolute, h.pieces.trans h'.pieces⟩

theorem isAbsolute_of_prefix (h : q <+: p) (hne : q ≠ []) : isAbsolute q = isAbsolute p := by
  obtain ⟨rest, rfl⟩ := h
  cases q with
  | nil => exact absurd rfl hne
  | cons c q => rfl

/-- The first path is the second one up to the component before the last, which is the name. -/
structure CutFrom (q p : Path) (name : Text) : Prop where
  parent : parent? p = some q
  ancestors : ancestors p = p :: ancestors q
  text : q <+: p
  absolute : isAbsolute q = isAbsolute p
  pieces : ∃ dots dots', pieces p = pieces q ++ dots ++ name :: dots' ∧ ∀ dot ∈ dots ++ dots', dot = ['.']

/-- The pieces of a path before and behind its last component; behind it there are dots only. -/
theorem exists_pieces (h : componentEnds 0 (Text.splitOn '/' p) = outer ++ [(k, name)]) :
    ∃ front back, Text.splitOn '/' p = front ++ name :: back ∧ componentEnds 0 front = outer ∧
      pieces p = front.filter (!·.isEmpty) ++ name :: back.filter (!·.isEmpty) ∧
      ∀ dot ∈ back.filter (!·.isEmpty), dot = ['.'] := by
  obtain ⟨front, back, hps, hfront, hname, hback⟩ := exists_cut h
  obtain ⟨-, hne⟩ := componentEnds_singleton_eq hname
  refine ⟨front, back, hps, hfront, ?_, dot_of_componentEnds_nil hback⟩
  rw [pieces, hps, List.filter_append, List.filter_cons, if_pos (by simpa using hne)]

/-- The only component is taken from the place where the path begins. -/
theorem cutFrom_root (h : componentEnds 0 (Text.splitOn '/' p) = [(k, name)]) :
    CutFrom (root p) p name := by
  have hends : componentEnds 0 (Text.splitOn '/' p) = [] ++ [(k, name)] := h
  obtain ⟨front, back, -, hfront, hpieces, hback⟩ := exists_pieces hends
  have hancestors := ancestors_eq hends
  refine ⟨by rw [parent?, hancestors]; rfl, ?_, root_isPrefix p, isAbsolute_root p,
    front.filter (!·.isEmpty), back.filter (!·.isEmpty), ?_, ?_⟩
  · rw [hancestors, ancestors_of_nil (componentEnds_root p)]
    rfl
  · rw [pieces_root, hpieces]
    rfl
  · exact List.forall_mem_append.2 ⟨dot_of_componentEnds_nil hfront, hback⟩

/-- The last of several components is taken from the path up to the one before it. -/
theorem cutFrom_take {k' : Nat} {name' : Text}
    (h : componentEnds 0 (Text.splitOn '/' p) = (outer ++ [(k', name')]) ++ [(k, name)]) :
    CutFrom (p.take k') p name := by
  obtain ⟨front, back, hps, hfront, hpieces, hback⟩ := exists_pieces h
  obtain ⟨front', back', rfl, hfront', hname', hback'⟩ := exists_cut hfront
  obtain ⟨rfl, hne'⟩ := componentEnds_singleton_eq hname'
  rw [Nat.zero_add] at h hname' ⊢
  rw [List.append_assoc, List.cons_append] at hps
  obtain ⟨htake, hsplit⟩ := take_of_splitOn hps
  -- the components of the cut are those of the path but the last one
  have hends : componentEnds 0 (Text.splitOn '/' (lead front' ++ name')) =
      outer ++ [((lead front').length + name'.length, name')] := by
    rw [hsplit, componentEnds_append, hfront', ← lead, Nat.zero_add, hname']
  have hprefix : lead front' ++ name' <+: p := htake ▸ List.take_prefix _ p
  have hcut : lead front' ++ name' ≠ [] := by simp [hne']
  have hancestors := ancestors_eq h
  rw [List.reverse_append, List.reverse_singleton, List.singleton_append, List.map_cons, htake]
    at hancestors
  rw [htake]
  refine ⟨by rw [parent?, hancestors]; rfl, ?_, hprefix, isAbsolute_of_prefix hprefix hcut,
    back'.filter (!·.isEmpty), back.filter (!·.isEmpty), ?_, ?_⟩
  · have hroot : root (lead front' ++ name') = root p := by
      rw [root, root, isAbsolute_of_prefix hprefix hcut]
    have htaken : ∀ place ∈ outer, p.take place.1 = (lead front' ++ name').take place.1 := by
      intro place hplace
      have hbefore := lt_of_mem_componentEnds (hfront' ▸ hplace)
      rw [← htake, List.take_take, Nat.min_eq_left (by omega)]
    rw [hancestors, ancestors_eq hends, hroot, List.cons_append,
      List.map_congr_left fun place hplace => htaken place (List.mem_reverse.1 hplace)]
  · have hcutPieces : pieces (lead front' ++ name') = front'.filter (!·.isEmpty) ++ [name'] := by
      rw [pieces, hsplit, List.filter_append, List.filter_cons, if_pos (by simpa using hne')]
      rfl
    rw [hpieces, hcutPieces, List.filter_append, List.filter_cons, if_pos (by simpa using hne')]
    simp
  · exact List.forall_mem_append.2 ⟨dot_of_componentEnds_nil hback', hback⟩

/-- **A path with components** is cut from its parent. -/
theorem exists_parent (h : componentEnds 0 (Text.splitOn '/' p) = outer ++ [(k, name)]) :
    ∃ q, CutFrom q p name := by
  rcases List.eq_nil_or_concat outer with rfl | ⟨outer, ⟨k', name'⟩, rfl⟩
  · exact ⟨_, cutFrom_root h⟩
  · rw [List.concat_eq_append] at h
    exact ⟨_, cutFrom_take h⟩

/-- A path has no other ancestors than its parent and those of its parent. -/
theorem ancestors_cases (p : Path) :
    ancestors p = [p] ∨ ∃ q, ancestors p = p :: ancestors q ∧ Above q p := by
  rcases List.eq_nil_or_concat (componentEnds 0 (Text.splitOn '/' p)) with hnil | ⟨outer, ⟨k, name⟩, h⟩
  · exact .inl (ancestors_of_nil hnil)
  · rw [List.concat_eq_append] at h
    obtain ⟨q, hcut⟩ := exists_parent h
    obtain ⟨dots, dots', hpieces, -⟩ := hcut.pieces
    refine .inr ⟨q, hcut.ancestors, hcut.text, hcut.absolute, ?_⟩
    rw [hpieces, List.append_assoc]
    exact List.prefix_append _ _

theorem above_of_mem_ancestors (h : q ∈ ancestors p) : Above q p := by
  -- the induction is on the list of ancestors: they get shorter, but not by one piece at a time
  generalize hpaths : ancestors p = paths at h
  induction paths generalizing p with
  | nil => cases h
  | cons first paths ih =>
    rcases ancestors_cases p with hone | ⟨parent, hmore, habove⟩
    · rw [hone] at hpaths
      obtain ⟨rfl, rfl⟩ := List.cons.inj hpaths
      rw [List.mem_singleton.1 h]
      exact Above.refl p
    · rw [hmore] at hpaths
      obtain ⟨rfl, hrest⟩ := List.cons.inj hpaths
      rcases List.mem_cons.1 h with rfl | h
      · exact Above.refl _
      · exact (ih hrest h).trans habove

/-! ## 3. File names -/

/-- The path is that of the name in the directory, but for dots that lead nowhere. -/
structure NameIn (directory p : Path) (name : Text) : Prop where
  fileName : fileName? p = some name
  plain : PlainName name
  parent : parent? p = some directory
  absolute : isAbsolute directory = isAbsolute p
  pieces : ∃ dots dots', pieces p = pieces directory ++ dots ++ name :: dots' ∧
    ∀ dot ∈ dots ++ dots', dot = ['.']

/-- **A path with a file name** leads to the name in its parent. -/
theorem exists_nameIn (h : fileName? p = some name) : ∃ directory, NameIn directory p name := by
  have hname := h
  rw [fileName?, components] at h
  rcases List.eq_nil_or_concat (componentEnds 0 (Text.splitOn '/' p)) with
    hnil | ⟨outer, ⟨k, other⟩, hends⟩
  · rw [hnil] at h
    cases h
  · rw [List.concat_eq_append] at hends
    rw [hends, List.map_append, List.map_singleton, List.getLast?_concat] at h
    simp only at h
    split at h
    · cases h
    -- the last component is a name: no dots, and no slash in it
    next hdots =>
      obtain rfl := Option.some.inj h
      obtain ⟨q, hcut⟩ := exists_parent hends
      obtain ⟨front, back, hps, -, hends, -⟩ := exists_cut hends
      have hslash : '/' ∉ other := by
        refine Text.notMem_of_mem_splitOn (t := p) ?_
        rw [hps]
        exact List.mem_append_right _ List.mem_cons_self
      have hplain : PlainName other := ⟨(componentEnds_singleton_eq hends).2, hslash,
        fun hdot => hdots (.inl hdot), fun hdot => hdots (.inr hdot)⟩
      exact ⟨q, hname, hplain, hcut.parent, hcut.absolute, hcut.pieces⟩

end MarkupDesk.Path

namespace MarkupDesk.Files

open MarkupDesk.Path (NameIn PlainName)

variable {directory path : Path} {name : Text}

/-- The sibling is in the directory too. -/
theorem siblingPath_of_nameIn (h : NameIn directory path name) :
    siblingPath path = Path.join directory (siblingName name) := by
  rw [siblingPath, Path.withFileName, h.fileName, h.parent]
  rfl

/-- Whatever the path is, its sibling has the name of one. -/
theorem fileName?_siblingPath (path : Path) :
    Path.fileName? (siblingPath path) = some (siblingName ((Path.fileName? path).getD [])) := by
  cases hname : Path.fileName? path with
  | some name =>
    obtain ⟨directory, hin⟩ := Path.exists_nameIn hname
    rw [siblingPath_of_nameIn hin, Path.fileName?_join directory (plainName_siblingName hin.plain)]
    rfl
  -- a path with no last name gets the sibling of the empty name joined to it
  | none =>
    have hplain : PlainName (siblingName []) := by decide +kernel
    have hsibling : siblingPath path = Path.join path (siblingName []) := by
      rw [siblingPath, Path.withFileName, hname]
      rfl
    rw [hsibling, Path.fileName?_join path hplain]
    rfl

end MarkupDesk.Files
