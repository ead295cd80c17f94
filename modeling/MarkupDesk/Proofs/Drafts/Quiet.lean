/-
`Proofs/Drafts/Quiet.lean` -- settings and pages are no documents.

The settings are written to a file that has not the name of a document. A page may have any
name; it is no document if it is exported to a directory that is not among those for drafts.
-/
import MarkupDesk.Preset.Catalog
import MarkupDesk.Proofs.Drafts.Frame

set_option autoImplicit false

namespace MarkupDesk

open Drafts (IsDocument Quiet Slot chains_quiet not_isDocument_of_name quiet_of_touches)
open Files (Disk Location)
open MarkupDesk.Path (PlainName)

variable {home cwd : Location}

/-! ## 1. Settings -/

namespace Settings

/-- The file of the settings has a name that no document has, wherever the directory of the
settings is. -/
theorem not_isDocument_settings (base : Path) :
    ¬ IsDocument home (Disk.target cwd (Path.join base "config.toml")) := by
  have hplain : PlainName ("config.toml" : Text) := by decide +kernel
  rw [Disk.target_join cwd base hplain]
  refine not_isDocument_of_name fun id heq => ?_
  -- the names end differently
  have hlast := congrArg List.getLast? heq
  have hsettings : ("config.toml" : Text).getLast? = some 'l' := by decide +kernel
  have hdraft : (Slot.draft id).name.getLast? = some 'n' := by
    rw [Slot.name_draft]
    simp
  rw [hsettings, hdraft] at hlast
  cases hlast

/-- No document is made where the settings are. -/
theorem quiet_of_settings (base : Path) {task : Task Files.FileError Unit}
    (f : Files.FileError → FileProblem)
    (h : task.Does cwd
      (Files.Touches fun x _ => x = Disk.target cwd (Path.join base "config.toml"))) :
    (Task.mapError f task).Does cwd (Quiet home) :=
  (Task.does_mapError h).mono fun _ _ htouches =>
    quiet_of_touches htouches fun _ _ hx => hx ▸ not_isDocument_settings base

/-- Writing the settings, or failing because they cannot be written as text. -/
theorem text_quiet (base : Path) (text : Option Text) :
    (match text with
      | none => throw .notWritable
      | some t => Task.mapError (.write (Path.join base "config.toml"))
          (Files.writeText (Path.join base "config.toml") t) : Task FileProblem Unit).Does cwd
        (Quiet home) := by
  cases text with
  | none => exact Task.does_throw (chains_quiet home) _
  | some t => exact quiet_of_settings base _ (Files.writeText_touches rfl)

/-- Saving the settings makes their directory and writes their file; no document is among what
is touched. -/
theorem saveTo_quiet (base : Path) (settings : Settings) :
    (saveTo (Path.join base "config.toml") settings).Does cwd (Quiet home) := by
  unfold saveTo
  cases Path.parent? (Path.join base "config.toml") with
  | none => exact text_quiet base _
  | some directory =>
    exact Task.does_bind (chains_quiet home)
      (quiet_of_settings base _ (Files.ensureDirectories_touches directory)) fun _ =>
        text_quiet base _

/-- The settings are saved in one place. -/
theorem save_quiet (settings : Settings) : settings.save.Does cwd (Quiet home) :=
  Task.does_bind (chains_quiet home) (Task.does_get (chains_quiet home)) fun _ =>
    saveTo_quiet _ settings

/-- The settings that a file gives are completed in that file. -/
theorem given_quiet (base : Path) (standard : Settings) (source : Text)
    (given : Except Toml.Problem GivenSettings) :
    (match given with
      | .error problem => throw (.malformed (Path.join base "config.toml") (problem.report source))
      | .ok given => do
        let settings := given.complete standard
        if !given.isFull then saveTo (Path.join base "config.toml") settings
        return settings : Task FileProblem Settings).Does cwd (Quiet home) := by
  have hchains := chains_quiet home
  cases given with
  | error problem => exact Task.does_throw hchains _
  | ok given =>
    simp only
    split
    · exact Task.does_bind hchains (saveTo_quiet base _) fun _ => Task.does_pure hchains _
    · exact Task.does_pure hchains _

/-- Reading the settings may complete and save them, which is as quiet. -/
theorem load_quiet : Settings.load.Does cwd (Quiet home) := by
  have hchains := chains_quiet home
  refine Task.does_bind hchains (Task.does_get hchains) fun s => ?_
  refine Task.does_bind hchains (Task.does_get hchains) fun s' => ?_
  have hread : ∀ path, (Files.readText path).Does cwd (Quiet home) := fun path =>
    Task.does_bind hchains (Task.does_get hchains) fun _ => Task.does_ofExcept hchains _
  refine Task.does_bind hchains (Task.does_lift hchains fun _ => rfl) fun there => ?_
  cases there with
  | true =>
    exact Task.does_bind hchains (Task.does_mapError (hread _)) fun source =>
      given_quiet _ (standardOf s') source _
  | false => exact Task.does_bind hchains (saveTo_quiet _ _) fun _ => Task.does_pure hchains _

end Settings

/-! ## 2. Pages -/

namespace Page

/-- A page gets a name in any case. -/
theorem exportName_ne_nil (requested : Text) : exportName requested ≠ [] := by
  have hdefault : defaultFileName ≠ [] := by decide +kernel
  unfold exportName Text.maskWith
  simp only [ne_eq, List.map_eq_nil_iff]
  split
  · exact hdefault
  next h => simpa using h

/-- The name of a page has no separator, so a page is a file in the directory that it is
exported to and not further down. -/
theorem notMem_exportName (requested : Text) : '/' ∉ exportName requested := by
  intro hmem
  unfold exportName Text.maskWith at hmem
  obtain ⟨c, -, hc⟩ := List.mem_map.1 hmem
  split at hc
  next => cases hc
  next h =>
    subst hc
    exact h rfl

/-- A page that goes to a directory outside is no document. -/
theorem not_isDocument_page {directory : Path} (h : ¬ home <+: Disk.target cwd directory)
    (requested : Text) :
    ¬ IsDocument home (Disk.target cwd (Path.join directory (exportName requested))) := by
  rintro ⟨presetId, id, heq⟩
  rw [Disk.target_join_of_notMem cwd directory (exportName_ne_nil requested)
    (notMem_exportName requested), Disk.stepOf] at heq
  have hbelow : home <+: Drafts.spot home presetId id := List.prefix_append _ _
  split at heq
  · exact h (heq ▸ hbelow)
  split at heq
  · exact h ((heq ▸ hbelow).trans (List.dropLast_prefix _))
  · -- the directory of a document is below as well
    have houter : Disk.target cwd directory =
        home ++ [Drafts.componentName presetId, "drafts"] := by
      have hspot : Drafts.spot home presetId id =
          (home ++ [Drafts.componentName presetId, "drafts"]) ++ [(Slot.draft id).name] := by
        simp [Drafts.spot]
      exact List.append_inj_left' (heq.trans hspot) rfl
    exact h (houter ▸ List.prefix_append _ _)

/-- Exporting to a directory that is not among those for drafts touches no document. A page
may be called as a document is, so the directory has to do it. -/
theorem exportTo_quiet {directory : Path} (h : ¬ home <+: Disk.target cwd directory)
    (requested html : Text) : (exportTo directory requested html).Does cwd (Quiet home) := by
  have hchains := chains_quiet home
  have htouch : ∀ {task : Task Files.FileError Unit},
      task.Does cwd (Files.Touches fun x _ =>
        x = Disk.target cwd (Path.join directory (exportName requested))) →
      task.Does cwd (Quiet home) := fun htask =>
    htask.mono fun s after htouches =>
      quiet_of_touches htouches fun x _ hx => hx ▸ not_isDocument_page h requested
  refine Task.does_bind hchains (htouch (Files.ensureDirectories_touches _)) fun _ => ?_
  exact Task.does_bind hchains (htouch (Files.writeText_touches rfl)) fun _ =>
    Task.does_pure hchains _

end Page

end MarkupDesk
