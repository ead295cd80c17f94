/-
`Proofs/Files/Within.lean` -- operations that stay below one directory.

A path leads below a directory, but before a file is written there the directories on the way
are made, and these may be anywhere. Where the outermost directory of the way is there already,
no other one is asked for (`ensureChain_reached`). So a file in a directory below it is replaced
without a change anywhere else: `Within`, which speaks of all entries, directories included.
-/
import MarkupDesk.Proofs.Files.Effect

set_option autoImplicit false

namespace MarkupDesk.Files

open MarkupDesk.Path (PlainName)
open MarkupDesk.Task (Does Ends)

/-- No entry has changed but below the place, and no directory has gone. -/
structure Within (place : Location) (s after : Session) : Prop where
  cwd : after.cwd = s.cwd
  directories : ∀ x, s.disk.lookup x = some .directory → after.disk.lookup x = some .directory
  others : ∀ x, ¬ place <+: x → after.disk.lookup x = s.disk.lookup x

variable {place x : Location} {s after : Session} {cwd : Location} {base path : Path}
  {component name t : Text}

theorem chains_within (place : Location) : Chains (Within place) where
  refl _ := ⟨rfl, fun _ hx => hx, fun _ _ => rfl⟩
  trans h h' := ⟨h'.cwd.trans h.cwd, fun x hx => h'.directories x (h.directories x hx),
    fun x hx => (h'.others x hx).trans (h.others x hx)⟩
  cwd := Within.cwd

/-- What was reached before is reached after a change within a place, since no directory has
gone. -/
theorem Within.reaches {outer : Location} (h : Within place s after)
    (hreach : s.disk.Reaches s.cwd base outer) : after.disk.Reaches after.cwd base outer := by
  rw [h.cwd]
  exact hreach.mono h.directories

/-! ## 1. Single operations -/

theorem within_set {entry : Entry} (hplace : place <+: x) (hnot : s.disk.lookup x ≠ some .directory) :
    Within place s { s with disk := s.disk.set x entry } := by
  refine ⟨rfl, fun y hy => ?_, fun y hy => ?_⟩
  · apply (Disk.lookup_set_of_ne _ _ _).trans hy
    rintro rfl
    exact hnot hy
  · apply Disk.lookup_set_of_ne
    rintro rfl
    exact hy hplace

theorem within_erase {content : Content} (hplace : place <+: x)
    (hfile : s.disk.file? x = some content) : Within place s { s with disk := s.disk.erase x } := by
  have hentry := Disk.file?_eq_some.1 hfile
  refine ⟨rfl, fun y hy => ?_, fun y hy => ?_⟩
  · apply (Disk.lookup_erase_of_ne _ _).trans hy
    rintro rfl
    rw [hentry] at hy
    cases hy
  · apply Disk.lookup_erase_of_ne
    rintro rfl
    exact hy hplace

theorem writeText_within (hplace : place <+: Disk.target cwd path) :
    (writeText path t).Does cwd (Within place) := by
  intro s result after hcwd hends
  rcases ends_change.1 hends with ⟨disk, hwrite, -, rfl⟩ | ⟨problem, -, -, rfl⟩
  · rw [hcwd] at hwrite
    obtain ⟨-, hnot, rfl⟩ := Disk.write_ok hwrite
    exact within_set hplace hnot
  · exact (chains_within place).refl _

theorem removeFile_within (hplace : place <+: Disk.target cwd path) :
    (removeFile path).Does cwd (Within place) := by
  intro s result after hcwd hends
  rcases ends_change.1 hends with ⟨disk, hremove, -, rfl⟩ | ⟨problem, -, -, rfl⟩
  · rw [hcwd] at hremove
    obtain ⟨content, hfile, rfl⟩ := Disk.removeFile_ok hremove
    exact within_erase hplace hfile
  · exact (chains_within place).refl _

/-- Removing a file that need not be there stays within the place of the file. -/
theorem removeIfPresent_within (hplace : place <+: Disk.target cwd path) :
    (removeIfPresent path).Does cwd (Within place) := by
  have hchains := chains_within place
  refine Task.does_bind hchains (Task.does_attempt (removeFile_within hplace)) fun outcome => ?_
  match outcome with
  | .ok _ => exact Task.does_pure hchains _
  | .error problem =>
    cases problem with
    | notFound => exact Task.does_pure hchains _
    | _ => exact Task.does_throw hchains _

/-- A directory is made at the place that the path names. -/
theorem ensureDirectory_within (hname : PlainName name)
    (hplace : place <+: Disk.target cwd (Path.join base name)) :
    (ensureDirectory (Path.join base name)).Does cwd (Within place) := by
  intro s result after hcwd hends
  rcases ends_ensureDirectory hends with ⟨disk, hmake, -, rfl⟩ | ⟨-, -, rfl⟩ | ⟨_, -, -, -, rfl⟩
  · rw [hcwd] at hmake
    obtain ⟨outer, hreach, hfits, rfl⟩ := Disk.makeDirectory_join_ok hname hmake
    rw [Disk.target_join cwd base hname, ← hreach.eq_target] at hplace
    refine within_set hplace fun hthere => ?_
    rw [Disk.makeDirectory_of_lookup hname hreach hfits hthere] at hmake
    cases hmake
  · exact (chains_within place).refl _
  · exact (chains_within place).refl _

/-! ## 2. The way to a file -/

/-- Where the directory above is there, a path to a name does not miss anything. -/
theorem resolve_ne_notFound (hname : PlainName name) {disk : Disk} {parent : Location}
    (hreach : disk.Reaches cwd base parent) :
    disk.resolve cwd (Path.join base name) ≠ .error .notFound := by
  have hempty : ¬ (Path.join base name).isEmpty = true := by simp [Path.join_ne_nil base hname]
  have hstart : (if Path.isAbsolute (Path.join base name) then [] else cwd) = Disk.startOf cwd base := by
    rw [Path.isAbsolute_join base hname, Disk.startOf]
  have hpieces : (Text.splitOn '/' (Path.join base name)).filter (!·.isEmpty) =
      Path.pieces base ++ [name] := Path.pieces_join base hname
  have hwalk : disk.walk (Disk.startOf cwd base) (Path.pieces base) = .ok parent := hreach
  rw [Disk.resolve, if_neg hempty, hstart, hpieces, Disk.follow_concat hname, hwalk]
  -- what can go wrong is that something is too long or cannot be given to the system
  by_cases hnul : Text.contains (Path.join base name) (Char.ofNat 0) = true
  · rw [if_pos hnul]
    intro herror
    cases herror
  rw [if_neg hnul]
  by_cases hpath : Disk.pathByteLimit ≤ Text.byteLength (Path.join base name)
  · rw [if_pos hpath]
    intro herror
    cases herror
  rw [if_neg hpath]
  by_cases hlong : Disk.maxNameBytes < Text.byteLength name
  · simp only [if_pos hlong]
    intro herror
    cases herror
  · simp only [if_neg hlong]
    intro herror
    cases herror

/-- Where the directory above is reached, making one below it is never refused because
something is missing. This is the error that would ask for directories further out. -/
theorem makeDirectory_ne_notFound (hname : PlainName name) {parent : Location}
    (hreach : s.disk.Reaches s.cwd base parent) :
    s.disk.makeDirectory s.cwd (Path.join base name) ≠ .error .notFound := by
  intro hmissing
  simp only [Disk.makeDirectory, bind, Except.bind] at hmissing
  cases hfound : s.disk.resolve s.cwd (Path.join base name) with
  | error problem =>
    rw [hfound] at hmissing
    rw [Except.error.inj hmissing] at hfound
    exact resolve_ne_notFound hname hreach hfound
  -- once the outer part resolves, a failure can only say that the name is taken
  | ok found =>
    obtain ⟨outer, -, -, rfl⟩ := (Disk.resolve_join_iff hname).1 hfound
    rw [hfound] at hmissing
    cases hentry : s.disk.lookup (outer ++ [name]) with
    | none => simp [hentry] at hmissing
    | some entry => simp [hentry] at hmissing

/-- **Where the directory above is there**, no other one is asked for. -/
theorem ensureChain_reached {outer : List Path} {result : Except FileError Unit} {parent : Location}
    (hname : PlainName name) (hplace : place <+: Disk.target s.cwd (Path.join base name))
    (hreach : s.disk.Reaches s.cwd base parent)
    (h : Ends (ensureChain (Path.join base name :: outer)) s result after) : Within place s after := by
  have hempty : ¬ (Path.join base name).isEmpty = true := by simp [Path.join_ne_nil base hname]
  rw [ensureChain, if_neg hempty] at h
  obtain ⟨outcome, between, hfirst, hrest⟩ := Task.ends_attempt_bind.1 h
  have hmade := (ensureDirectory_within hname hplace).ends rfl hfirst
  split at hrest
  · rwa [← (Task.ends_pure.1 hrest).2] at hmade
  · -- the error of the first try is that of making the directory
    rcases ends_ensureDirectory hfirst with
      ⟨_, -, hok, -⟩ | ⟨-, hok, -⟩ | ⟨problem, hmissing, -, hproblem, -⟩
    · cases hok
    · cases hok
    · rw [← Except.error.inj hproblem] at hmissing
      exact absurd hmissing (makeDirectory_ne_notFound hname hreach)
  · rwa [← (Task.ends_throw.1 hrest).2] at hmade

/-- The same for a directory in the directory. -/
theorem ensureChain_reached_twice {outer : List Path} {result : Except FileError Unit}
    {parent : Location} (hcomponent : PlainName component) (hname : PlainName name)
    (hplace : place <+: Disk.target s.cwd (Path.join base component))
    (hreach : s.disk.Reaches s.cwd base parent)
    (h : Ends (ensureChain (Path.join (Path.join base component) name ::
      Path.join base component :: outer)) s result after) : Within place s after := by
  have hchains := chains_within place
  have hempty : ¬ (Path.join (Path.join base component) name).isEmpty = true := by
    simp [Path.join_ne_nil _ hname]
  have hinner : place <+: Disk.target s.cwd (Path.join (Path.join base component) name) := by
    rw [Disk.target_join _ _ hname]
    exact hplace.trans (List.prefix_append _ _)
  rw [ensureChain, if_neg hempty] at h
  obtain ⟨outcome, between, hfirst, hrest⟩ := Task.ends_attempt_bind.1 h
  have hmade := (ensureDirectory_within hname hinner).ends rfl hfirst
  refine hchains.trans hmade ?_
  rw [← hmade.cwd] at hplace hinner
  -- if that fails the directory above is made first, whose own one is there
  split at hrest
  · rw [(Task.ends_pure.1 hrest).2]
    exact hchains.refl between
  · rcases Task.ends_bind.1 hrest with ⟨_, houter, -⟩ | ⟨_, between', houter, hlast⟩
    · exact ensureChain_reached hcomponent hplace (hmade.reaches hreach) houter
    · have hmade' := ensureChain_reached hcomponent hplace (hmade.reaches hreach) houter
      exact hchains.trans hmade' ((ensureDirectory_within hname hinner).ends hmade'.cwd hlast)
  · rw [(Task.ends_throw.1 hrest).2]
    exact hchains.refl between

/-! ## 3. Replacing a file -/

/-- Writing through the sibling stays within the place, in which both files are. -/
theorem writeThroughSibling_within (hplace : place <+: Disk.target cwd path)
    (hsibling : place <+: Disk.target cwd (siblingPath path)) :
    (writeThroughSibling path t).Does cwd (Within place) := by
  refine Task.does_bind (chains_within place) (writeText_within hsibling) fun _ => ?_
  intro s result after hcwd hends
  rcases ends_change.1 hends with ⟨disk, hmove, -, rfl⟩ | ⟨problem, -, -, rfl⟩
  · rw [hcwd] at hmove
    obtain ⟨content, hfile, -, -, hnot, ⟨-, rfl⟩ | rfl⟩ := Disk.moveFile_ok hmove
    · exact (chains_within place).refl _
    · refine (chains_within place).trans (within_erase hsibling hfile) (within_set hplace ?_)
      -- taking the sibling away makes no directory of the target
      intro hthere
      apply hnot
      by_cases hsame : Disk.target cwd path = Disk.target cwd (siblingPath path)
      · rw [hsame, Disk.file?_eq_some.1 hfile]
        rw [hsame] at hthere
        by_cases hroot : Disk.target cwd (siblingPath path) = []
        · rw [hroot] at hfile
          cases hfile
        · rw [Disk.lookup_erase_self hroot] at hthere
          cases hthere
      · exact (Disk.lookup_erase_of_ne hsame _).symm.trans hthere
  · exact (chains_within place).refl _

/-- **Replacing a file** stays below a place, if making its directory does. -/
theorem writeWhole_within {directory : Path} {result : Except FileError Unit}
    (hparent : Path.parent? path = some directory) (hplace : place <+: Disk.target s.cwd path)
    (hsibling : place <+: Disk.target s.cwd (siblingPath path))
    (hmake : ∀ {result : Except FileError Unit} {between : Session},
      Ends (ensureDirectories directory) s result between → Within place s between)
    (h : Ends (writeWhole path t) s result after) : Within place s after := by
  have hchains := chains_within place
  unfold writeWhole at h
  rw [hparent] at h
  rcases Task.ends_bind.1 h with ⟨_, hfailed, -⟩ | ⟨_, between, hmade, hrest⟩
  · exact hmake hfailed
  · refine hchains.trans (hmake hmade) (Task.Does.ends ?_ (hmake hmade).cwd hrest)
    refine Task.does_bind hchains
      (Task.does_attempt (writeThroughSibling_within hplace hsibling)) fun outcome => ?_
    cases outcome with
    | ok _ => exact Task.does_pure hchains _
    | error problem =>
      -- the sibling is removed where it is left
      refine Task.does_bind hchains (Task.does_attempt (removeFile_within hsibling)) fun _ => ?_
      exact Task.does_throw hchains problem

end MarkupDesk.Files
