/-
`Proofs/Page.lean` -- pages in files.

A page that was exported is read from the file that it went to (`exportTo_ok`), and it stays
there as long as nothing is done but in a place that it did not go to (`Exported.within`). Where a
page was exported another one can be, under the same name (`Exported.again`).
-/
import MarkupDesk.Proofs.Drafts.Quiet
import MarkupDesk.Proofs.Files.Written

set_option autoImplicit false

namespace MarkupDesk.Page

open Files (Disk FileError HasDirectory Location Within)
open MarkupDesk.Task (Ends)

variable {home place : Location} {s after : Session} {directory path : Path}
  {requested html other : Text}

/-- The directory is there, and the page is read from its file in it. -/
structure Exported (directory : Path) (requested html : Text) (s : Session) : Prop where
  made : HasDirectory s directory
  page : s.disk.read s.cwd (Path.join directory (exportName requested)) = .ok html

/-- **Exporting** leaves the page in the file whose path is told. -/
theorem exportTo_ok (h : Ends (exportTo directory requested html) s (.ok path) after) :
    path = Path.join directory (exportName requested) ∧ Exported directory requested html after := by
  obtain ⟨_, made, hmake, h⟩ := Task.ends_bind_ok.1 h
  obtain ⟨_, written, hwrite, h⟩ := Task.ends_bind_ok.1 h
  obtain ⟨hpath, rfl⟩ := Task.ends_pure.1 h
  have hthere := Files.ensureDirectories_there hmake
  have hkept : Files.Touches (fun _ _ => True) made after :=
    (Files.writeText_touches trivial).ends rfl hwrite
  refine ⟨Except.ok.inj hpath, hthere.mono ?_ hkept.directories, ?_⟩
  · rw [hkept.same]
  · rcases Files.ends_change.1 hwrite with ⟨disk, hdisk, -, rfl⟩ | ⟨_, -, hno, -⟩
    · exact Disk.read_of_write hdisk
    · cases hno

/-- **A page can be exported again.** -/
theorem Exported.again (h : Exported directory requested other s) (html : Text) :
    ∃ after, Ends (exportTo directory requested html) s
      (.ok (Path.join directory (exportName requested))) after := by
  obtain ⟨made, hmake⟩ := Files.exists_ensureDirectories h.made
  obtain ⟨hsame, hgrown⟩ := Files.ensureChain_grown hmake
  have hcwd : made.cwd = s.cwd := by rw [hsame]
  -- directories may have come, but the file is what it was
  have hread : made.disk.read made.cwd (Path.join directory (exportName requested)) = .ok other := by
    rw [hcwd]
    refine Disk.read_stays (fun x hx => hgrown.directory hx) ?_ h.page
    rcases hgrown (Disk.target s.cwd (Path.join directory (exportName requested))) with hx | ⟨hx, -⟩
    · exact hx
    · obtain ⟨parent, name, hfound, hentry⟩ := Disk.read_eq_ok_iff.1 h.page
      rw [← Disk.resolve_ok hfound rfl, hentry] at hx
      cases hx
  obtain ⟨disk, hwrite⟩ := Disk.exists_write hread (.text html)
  refine ⟨{ made with disk := disk }, Task.ends_bind_ok.2 ⟨(), made, hmake, ?_⟩⟩
  exact Task.ends_bind_ok.2
    ⟨(), _, Files.ends_change.2 (.inl ⟨disk, hwrite, rfl, rfl⟩), Task.ends_pure.2 ⟨rfl, rfl⟩⟩

/-- A file of a page that goes to a directory outside is not below a place inside. -/
theorem not_prefix_page {cwd : Location} (h : ¬ home <+: Disk.target cwd directory) (name : Text)
    (requested : Text) :
    ¬ home ++ [name] <+: Disk.target cwd (Path.join directory (exportName requested)) := by
  have hbelow : home <+: home ++ [name] := List.prefix_append _ _
  rw [Disk.target_join_of_notMem cwd directory (exportName_ne_nil requested)
    (notMem_exportName requested), Disk.stepOf]
  intro hplace
  -- the name is a dot, two dots, or one more piece behind the directory
  split at hplace
  · exact h (hbelow.trans hplace)
  split at hplace
  · exact h ((hbelow.trans hplace).trans (List.dropLast_prefix _))
  · rcases List.prefix_concat_iff.1 hplace with hsame | hinside
    · exact h (List.append_inj_left' hsame rfl ▸ List.prefix_rfl)
    · exact h (hbelow.trans hinside)

/-- **A page stays where it is** when something is done elsewhere. -/
theorem Exported.within (h : Exported directory requested html s)
    (houtside : ¬ place <+: Disk.target s.cwd (Path.join directory (exportName requested)))
    (hwithin : Within place s after) : Exported directory requested html after := by
  refine ⟨h.made.mono hwithin.cwd hwithin.directories, ?_⟩
  rw [hwithin.cwd]
  exact Disk.read_stays hwithin.directories (hwithin.others _ houtside) h.page

end MarkupDesk.Page
