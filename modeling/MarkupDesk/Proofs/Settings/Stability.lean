/-
`Proofs/Settings/Stability.lean` -- settings that were loaded once are loaded again.

What a file lacks is filled with defaults, and then the file is written; a missing file is like an
empty one (`Source`). Behind that the file lacks nothing, and loading it gives the same settings and
leaves it alone (`AtRest`), as it does with settings that were saved. A file that holds no settings is
left as it is.
-/
import MarkupDesk.Proofs.Files.Ancestor
import MarkupDesk.Proofs.Settings.Format
import MarkupDesk.Settings.File

set_option autoImplicit false

namespace MarkupDesk.Settings

open GivenSettings (FromFile)
open MarkupDesk.Task (Ends)

variable {s made after : Session} {path : Path} {settings defaults : Settings} {source t : Text}
  {given : GivenSettings} {result : Except FileProblem Settings}

/-! ## 1. Files that can be written -/

/-- The directory of the file, if its path names one, was made. -/
def Prepared (path : Path) (s made : Session) : Prop :=
  match Path.parent? path with
  | some directory => Ends (Files.ensureDirectories directory) s (.ok ()) made
  | none => made = s

/-- The directory of the file can be made, and then the file can be written. -/
def Writable (s : Session) (path : Path) : Prop :=
  ∃ made after, Prepared path s made ∧ Ends (Files.writeText path []) made (.ok ()) after

/-- Preparing the place of a file makes directories only. -/
theorem Prepared.grown (h : Prepared path s made) : Files.GrownSession s made := by
  unfold Prepared at h
  split at h
  · exact Files.ensureChain_grown h
  · exact h ▸ Files.GrownSession.refl s

/-- Settings are saved where the place is prepared and the text can be written. -/
theorem ends_saveTo (h : Prepared path s made) (ht : settings.toText? = some t)
    (hwrite : Ends (Files.writeText path t) made (.ok ()) after) :
    Ends (saveTo path settings) s (.ok ()) after := by
  have hrest : Ends (Task.mapError (FileProblem.write path) (Files.writeText path t)) made (.ok ()) after :=
    Task.ends_mapError_ok.2 hwrite
  unfold saveTo Prepared at *
  simp only [ht]
  cases hparent : Path.parent? path with
  | none =>
    rw [hparent] at h
    obtain rfl := h
    exact hrest
  | some directory =>
    rw [hparent] at h
    exact Task.ends_bind_ok.2 ⟨(), made, Task.ends_mapError_ok.2 h, hrest⟩

/-- **Settings can be saved** where the file can be written, and what is written can be read. -/
theorem Writable.saved (h : Writable s path) (hstorable : settings.Storable) :
    ∃ after t, Ends (saveTo path settings) s (.ok ()) after ∧
      after.disk.read after.cwd path = .ok t ∧ GivenSettings.ofText t = .ok settings.asGiven := by
  obtain ⟨made, blank, hprepared, hblank⟩ := h
  obtain ⟨t, ht⟩ : ∃ t, settings.toText? = some t := ⟨_, toText?_eq_document hstorable⟩
  rcases Files.ends_change.1 hblank with ⟨disk, hdisk, -, -⟩ | ⟨_, -, hno, -⟩
  · obtain ⟨written, hwritten⟩ := Files.Disk.exists_write_of_write hdisk (.text t)
    have hwrite : Ends (Files.writeText path t) made (.ok ()) { made with disk := written } :=
      Files.ends_change.2 (.inl ⟨written, hwritten, rfl, rfl⟩)
    exact ⟨_, t, ends_saveTo hprepared ht hwrite, Files.Disk.read_of_write hwritten,
      ofText_toText? hstorable ht⟩
  · cases hno

/-- Where a text is read, another one can be written. -/
theorem writable_of_read (h : s.disk.read s.cwd path = .ok source) : Writable s path := by
  obtain ⟨parent, name, hfound, hentry⟩ := Files.Disk.read_eq_ok_iff.1 h
  obtain ⟨made, hmade⟩ : ∃ made, Prepared path s made := by
    unfold Prepared
    cases hparent : Path.parent? path with
    | none => exact ⟨s, rfl⟩
    | some directory =>
      exact Files.exists_ensureDirectories (Files.Disk.isDirectory_parent hparent hfound)
  -- the file is still there behind that, for only what was missing was made
  have hgrown := hmade.grown
  have htarget : made.disk.lookup (Files.Disk.target s.cwd path) =
      s.disk.lookup (Files.Disk.target s.cwd path) := by
    rw [← Files.Disk.resolve_ok hfound rfl]
    rcases hgrown.2 (parent ++ [name]) with hsame | ⟨hnone, -⟩
    · exact hsame
    · rw [hentry] at hnone
      cases hnone
  have hread := Files.Disk.read_stays (fun x hx => hgrown.2.directory hx) htarget h
  obtain ⟨disk, hwrite⟩ := Files.Disk.exists_write hread (.text [])
  have hcwd : made.cwd = s.cwd := by rw [hgrown.1]
  rw [← hcwd] at hwrite
  exact ⟨made, { made with disk := disk }, hmade, Files.ends_change.2 (.inl ⟨disk, hwrite, rfl, rfl⟩)⟩

/-! ## 2. Loading -/

/-- What loading does with the text of the file. -/
def accept (path : Path) (defaults : Settings) (source : Text) : Task FileProblem Settings :=
  match GivenSettings.ofText source with
  | .error problem => throw (.malformed path (problem.report source))
  | .ok given => do
    if !given.isFull then saveTo path (given.complete defaults)
    return given.complete defaults

theorem hasEntry_of_read (h : s.disk.read s.cwd path = .ok source) : s.disk.hasEntry s.cwd path = true := by
  rw [Files.Disk.read] at h
  obtain ⟨entry, hstat, -⟩ := Json.exists_of_bind_ok h
  rw [Files.Disk.hasEntry, hstat]
  rfl

/-- Where a file is read, loading is accepting its text. -/
theorem ends_loadFrom_of_read (h : s.disk.read s.cwd path = .ok source) :
    Ends (loadFrom path) s result after ↔ Ends (accept path (standardOf s) source) s result after := by
  have hread : Ends (Task.mapError (FileProblem.unreadable path) (Files.readText path)) s (.ok source) s :=
    Task.ends_mapError_ok.2 (Task.ends_get_bind.2 (Task.ends_ofExcept.2 ⟨h.symm, rfl⟩))
  unfold loadFrom
  rw [Task.ends_get_bind, Task.ends_lift_bind]
  have hentry : ((Files.hasEntry path).run s).1 = true := hasEntry_of_read h
  rw [hentry]
  simp only [Bool.not_true, Bool.false_eq_true, if_false]
  rw [Task.ends_bind]
  constructor
  · rintro (⟨problem, herror, -⟩ | ⟨source', between, hread', hrest⟩)
    · cases (Prod.mk.inj (hread.symm.trans herror)).1
    · obtain ⟨hsource, rfl⟩ := Prod.mk.inj (hread.symm.trans hread')
      obtain rfl := Except.ok.inj hsource
      exact hrest
  · intro hrest
    exact .inr ⟨source, s, hread, hrest⟩

/-- A file that lacks nothing is accepted and left alone. -/
theorem ends_accept_full (hgiven : GivenSettings.ofText source = .ok given) (hfull : given.isFull = true) :
    Ends (accept path defaults source) s (.ok (given.complete defaults)) s := by
  unfold accept
  simp only [hgiven, hfull]
  exact Task.ends_pure.2 ⟨rfl, rfl⟩

/-- A file with gaps is accepted with defaults in them, and written. -/
theorem ends_accept_gaps (hgiven : GivenSettings.ofText source = .ok given) (hfull : given.isFull = false)
    (hsave : Ends (saveTo path (given.complete defaults)) s (.ok ()) after) :
    Ends (accept path defaults source) s (.ok (given.complete defaults)) after := by
  unfold accept
  simp only [hgiven, hfull]
  exact Task.ends_bind_ok.2 ⟨(), after, hsave, Task.ends_pure.2 ⟨rfl, rfl⟩⟩

/-- A file that holds no settings is refused and left alone. -/
theorem ends_accept_malformed {problem : Toml.Problem} (h : GivenSettings.ofText source = .error problem) :
    Ends (accept path defaults source) s (.error (.malformed path (problem.report source))) s := by
  unfold accept
  rw [h]
  exact Task.ends_throw.2 ⟨rfl, rfl⟩

/-- A missing file is written with the defaults. -/
theorem ends_loadFrom_missing (h : s.disk.hasEntry s.cwd path = false)
    (hsave : Ends (saveTo path (standardOf s)) s (.ok ()) after) :
    Ends (loadFrom path) s (.ok (standardOf s)) after := by
  unfold loadFrom
  rw [Task.ends_get_bind, Task.ends_lift_bind]
  have hentry : ((Files.hasEntry path).run s).1 = false := h
  rw [hentry]
  exact Task.ends_bind_ok.2 ⟨(), after, hsave, Task.ends_pure.2 ⟨rfl, rfl⟩⟩

/-! ## 3. Loading again -/

/-- The file lacks nothing, and loading it gives the settings and changes nothing. -/
def AtRest (path : Path) (settings : Settings) (s : Session) : Prop :=
  (∃ t given, s.disk.read s.cwd path = .ok t ∧ GivenSettings.ofText t = .ok given ∧
    given.isFull = true) ∧ Ends (loadFrom path) s (.ok settings) s

theorem atRest_of_full (hread : s.disk.read s.cwd path = .ok source)
    (hgiven : GivenSettings.ofText source = .ok given) (hfull : given.isFull = true) :
    AtRest path (given.complete (standardOf s)) s :=
  ⟨⟨source, given, hread, hgiven, hfull⟩,
    (ends_loadFrom_of_read hread).2 (ends_accept_full hgiven hfull)⟩

/-- **Settings that were saved** are loaded as they are. -/
theorem Writable.atRest (h : Writable s path) (hpresets : settings.presetsDirectory.isSome = true)
    (hdata : settings.dataDirectory.isSome = true) (hstorable : settings.Storable) :
    ∃ after, Ends (saveTo path settings) s (.ok ()) after ∧ AtRest path settings after := by
  obtain ⟨after, t, hsave, hread, hgiven⟩ := h.saved hstorable
  have hfull : settings.asGiven.isFull = true := by simp [GivenSettings.isFull, asGiven, hpresets, hdata]
  have hcomplete : settings.asGiven.complete (standardOf after) = settings := by
    simp [GivenSettings.complete, asGiven, Option.or_of_isSome hpresets, Option.or_of_isSome hdata]
  exact ⟨after, hsave, hcomplete ▸ atRest_of_full hread hgiven hfull⟩

theorem storable_standardOf (s : Session) : (standardOf s).Storable where
  autosaveMillis := (by decide : 400 ≤ Toml.maxInteger)
  tabWidth := (by decide : 4 ≤ Toml.maxInteger)

/-- The text that loading finds: it stands in the file, or it is empty as the file is missing, which
can be written then. -/
def Source (path : Path) (s : Session) (source : Text) : Prop :=
  s.disk.read s.cwd path = .ok source ∨
    s.disk.hasEntry s.cwd path = false ∧ Writable s path ∧ source = []

/-- The settings that a text gives, whether they were written or not, are at rest then. -/
theorem Source.loaded (h : Source path s source) (hgiven : GivenSettings.ofText source = .ok given)
    (hstorable : (given.complete (standardOf s)).Storable) :
    ∃ after, Ends (loadFrom path) s (.ok (given.complete (standardOf s))) after ∧
      AtRest path (given.complete (standardOf s)) after := by
  have hpresets : (given.complete (standardOf s)).presetsDirectory.isSome = true := by
    simp [GivenSettings.complete, standardOf, standard]
  have hdata : (given.complete (standardOf s)).dataDirectory.isSome = true := by
    simp [GivenSettings.complete, standardOf, standard]
  rcases h with hread | ⟨hmissing, hwritable, rfl⟩
  · cases hfull : given.isFull with
    | true =>
      have hrest := atRest_of_full hread hgiven hfull
      exact ⟨s, hrest.2, hrest⟩
    | false =>
      obtain ⟨after, hsave, hrest⟩ := (writable_of_read hread).atRest hpresets hdata hstorable
      exact ⟨after, (ends_loadFrom_of_read hread).2 (ends_accept_gaps hgiven hfull hsave), hrest⟩
  · -- an empty text gives nothing, so all is filled with defaults
    have hempty : GivenSettings.ofText [] = .ok .nothing := rfl
    obtain rfl := Except.ok.inj (hempty.symm.trans hgiven)
    obtain ⟨after, hsave, hrest⟩ := hwritable.atRest hpresets hdata hstorable
    exact ⟨after, ends_loadFrom_missing hmissing hsave, hrest⟩

/-- **Loading is stable.** A text that can be read as settings, or none, gives the settings with the
values of the text and defaults for those that it lacks; loading again gives the same and writes
nothing. A text that cannot be read is told, and nothing is written. Settings with both directories
and with numbers that a file can hold are loaded as they were saved. -/
theorem loadFrom_stable (s : Session) (path : Path) :
    (∀ source given, Source path s source → GivenSettings.ofText source = .ok given →
      ∃ members settings after, Toml.parse source = .ok members ∧
        Ends (loadFrom path) s (.ok settings) after ∧ FromFile members (standardOf s) settings ∧
        AtRest path settings after) ∧
    (∀ source problem, s.disk.read s.cwd path = .ok source →
      GivenSettings.ofText source = .error problem →
      Ends (loadFrom path) s (.error (.malformed path (problem.report source))) s) ∧
    ∀ settings : Settings, settings.presetsDirectory.isSome = true →
      settings.dataDirectory.isSome = true → settings.Storable → Writable s path →
        ∃ after, Ends (saveTo path settings) s (.ok ()) after ∧ AtRest path settings after := by
  refine ⟨fun source given hsource hgiven => ?_, fun source problem hread hproblem => ?_,
    fun settings hpresets hdata hstorable hwritable => hwritable.atRest hpresets hdata hstorable⟩
  · obtain ⟨members, hparse, hfile, hstorable⟩ :=
      GivenSettings.fromFile_of_ofText rfl (storable_standardOf s) hgiven
    obtain ⟨after, hload, hrest⟩ := hsource.loaded hgiven hstorable
    exact ⟨members, _, after, hparse, hload, hfile, hrest⟩
  · exact (ends_loadFrom_of_read hread).2 (ends_accept_malformed hproblem)

/-- A session with a file that gives the width of a tab only, and one that is cut off. -/
def twoFiles : Session where
  disk := (Files.Disk.empty.set ["config.toml"] (.file (.text "tab_width = 2\n"))).set ["cut.toml"]
    (.file (.text "tab_width = "))
  cwd := []
  configHome := "/config"
  dataHome := "/data"
  editor := none
  now := ⟨0, 0, 0⟩
  ticks := 0
  nextToken := 0

/-- One file has a single key: it is filled, and then at rest. The other one is cut off in the
middle: it is left as it is until settings are saved there. -/
theorem loadFrom_stable_twoFiles :
    (∃ members settings after, Toml.parse "tab_width = 2\n" = .ok members ∧
      Ends (loadFrom "config.toml") twoFiles (.ok settings) after ∧
      FromFile members (standardOf twoFiles) settings ∧ AtRest "config.toml" settings after) ∧
    (∃ report, Ends (loadFrom "cut.toml") twoFiles (.error (.malformed "cut.toml" report)) twoFiles) ∧
    ∃ after, Ends (saveTo "cut.toml" (standardOf twoFiles)) twoFiles (.ok ()) after ∧
      AtRest "cut.toml" (standardOf twoFiles) after := by
  have hwidth : twoFiles.disk.read twoFiles.cwd "config.toml" = .ok "tab_width = 2\n" := rfl
  have hcut : twoFiles.disk.read twoFiles.cwd "cut.toml" = .ok "tab_width = " := rfl
  have hgiven : (GivenSettings.ofText "tab_width = 2\n").toOption.isSome = true := by decide +kernel
  have hnone : (GivenSettings.ofText "tab_width = ").toOption.isSome = false := by decide +kernel
  refine ⟨?_, ?_, ?_⟩
  · -- the settings are read off by the general statement; only that the file is read is computed
    cases hread : GivenSettings.ofText "tab_width = 2\n" with
    | ok given => exact (loadFrom_stable twoFiles "config.toml").1 _ given (.inl hwidth) hread
    | error problem =>
      rw [hread] at hgiven
      cases hgiven
  · cases hread : GivenSettings.ofText "tab_width = " with
    | ok given =>
      rw [hread] at hnone
      cases hnone
    | error problem => exact ⟨_, (loadFrom_stable twoFiles "cut.toml").2.1 _ problem hcut hread⟩
  · exact (loadFrom_stable twoFiles "cut.toml").2.2 _ rfl rfl (storable_standardOf _) (writable_of_read hcut)

end MarkupDesk.Settings
