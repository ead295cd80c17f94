/-
`Shell/Run.lean` -- carrying out a command.

A run begins with the settings and the presets, whatever the command. Most commands
then come to an end with an exit code and what they print; a failure is reported with
exit code 1 and nothing else printed, and a panic with an exit code of its own. `watch` and
`edit` go on: a run ends with what goes on, a watch or an editor, for the one who has the files
or the screen.
-/
import MarkupDesk.Editor.Saving
import MarkupDesk.Markup.Configuration
import MarkupDesk.Settings.EditorCommand
import MarkupDesk.Shell.Invocation

set_option autoImplicit false

namespace MarkupDesk.Shell

open Drafts (Draft Store)
open Markup (Rules)

/-! ## 1. Results -/

/-- How a run came to an end, and what it printed. -/
structure Outcome where
  code : Nat
  stdout : Text
  stderr : Text
  deriving DecidableEq, Repr

/-- What `--version` prints. -/
def versionText : Text := programName ++ " 0.1.0\n"

/-- How the program is called. -/
def usageText : Text :=
  "Usage: " ++ programName
    ++ " [--preset <PRESET>] [compile|watch|edit|drafts|presets|config] ...\n"

namespace Outcome

/-- The outcome of a task that prints a text. -/
def ofResult : Except Failure Text → Outcome
  | .ok printed => ⟨0, printed, []⟩
  | .error failure => ⟨1, [], failure.report⟩

/-- The outcome of a panic. Of what is reported, the place in the program is left out. -/
def ofPanic (panic : Panic) : Outcome := ⟨Panic.exitCode, [], panic.message ++ ['\n']⟩

/-- The outcome of a task that prints a text, unless it panics. -/
def ofStop : Except (Stop Failure) Text → Outcome
  | .ok printed => ofResult (.ok printed)
  | .error (.failed failure) => ofResult (.error failure)
  | .error (.panicked panic) => ofPanic panic

/-- The outcome of a command line that is not carried out. -/
def ofRefusal : Refusal → Outcome
  | .usage => ⟨2, [], usageText⟩
  | .help => ⟨0, usageText, []⟩
  | .version => ⟨0, versionText, []⟩

end Outcome

/-- The text with a line feed at its end, if there is none yet. -/
def withLineEnd (t : Text) : Text := if t.endsWith ['\n'] then t else t ++ ['\n']

/-! ## 2. The beginning of every run -/

/-- What a command is carried out with. -/
structure Setting where
  settings : Settings
  catalog : Catalog
  /-- The preset that was asked for. -/
  requested : Option Text

/-- Makes the log file if it is missing; where that fails there is no log. -/
def prepareLog (path : Path) : StateM Session Unit := do
  let create : Task Files.FileError Unit := do
    if let some directory := Path.parent? path then Files.ensureDirectories directory
    if !(← Task.lift (Files.hasEntry path)) then Files.writeText path []
  let _ ← create.run

/-- The failure of a preset that there is none of. -/
def unknownPreset (id : Text) : Failure := .plain ("Unknown preset: " ++ id)

/-- Loads the settings and the presets. -/
def setUp (invocation : Invocation) : Task Failure Setting := do
  let settings ← Task.mapError (·.failure) Settings.load
  if invocation.command = .edit then Task.lift (prepareLog settings.logPath)
  let catalog ← Task.lift (Catalog.load settings.presetsDirectory)
  if let some id := invocation.preset then
    if (catalog.get? id).isNone then throw (unknownPreset id)
  return ⟨settings, catalog, invocation.preset⟩

/-- The preset that was asked for, or that of the settings, or the first one. -/
def Setting.preset (setting : Setting) : Task Failure Preset :=
  match setting.catalog.select? (setting.requested.or setting.settings.defaultPreset) with
  | some preset => pure preset
  | none => throw (.plain "No presets available")

/-! ## 3. Compiling -/

/-- The text of a file. -/
def readFile (path : Path) : Task Failure Text :=
  Task.mapError (fun cause => .because ("Failed to read " ++ path) cause.message)
    (Files.readText path)

/-- Writes a file, and makes the directories that contain it. -/
def writeFile (path : Path) (t : Text) : Task Failure Unit := do
  if let some directory := Path.parent? path then
    if !directory.isEmpty then
      Task.mapError (fun cause => .because ("Failed to create " ++ directory) cause.message)
        (Files.ensureDirectories directory)
  Task.mapError (fun cause => .because ("Failed to write " ++ path) cause.message)
    (Files.writeText path t)

/-- The rules in a file. -/
def readRules (path : Path) : Task Failure Rules := do
  let source ← readFile path
  match Rules.ofText source with
  | .ok rules => return rules
  | .error fault => throw (.because ("Failed to parse " ++ path) (fault.message source))

/-- What a source text is compiled to. -/
def compiled (preset : Preset) (request : CompileRequest) (source : Text) : Text :=
  if request.bodyOnly then Markup.compile preset.rules source
  else Page.render preset request.title source

/-- Compiles a file; gives what is printed. -/
def runCompile (setting : Setting) (request : CompileRequest) : Task Failure Text := do
  let preset ← setting.preset
  let rules ←
    match request.rules with
    | some path => readRules path
    | none => pure preset.rules
  let source ← readFile request.file
  let html := compiled { preset with rules := rules } request source
  match request.output with
  | some path =>
    writeFile path html
    return []
  | none => return withLineEnd html

/-! ## 4. Watching -/

/-- A file that is compiled whenever it changes. -/
structure Watch where
  preset : Preset
  request : WatchRequest

namespace Watch

/-- Compiles the file. -/
def build (watch : Watch) : Task Failure Unit := do
  let source ← readFile watch.request.file
  writeFile watch.request.output (Page.render watch.preset watch.request.title source)

/-- What is said when the file was compiled for the first time. -/
def startLine (watch : Watch) : Text :=
  "Wrote " ++ watch.request.output ++ "; watching " ++ watch.request.file ++ " (Ctrl-C to stop)"

/-- Compiles the file after a change; gives what is said. -/
def rebuild (watch : Watch) : StateM Session Text := do
  match ← watch.build.run with
  | .ok _ => return "Rebuilt " ++ watch.request.output
  | .error failure => return "Build failed: " ++ failure.oneLine

end Watch

/-- Compiles a file for the first time. -/
def runWatch (setting : Setting) (request : WatchRequest) : Task Failure Watch := do
  let watch : Watch := ⟨← setting.preset, request⟩
  watch.build
  return watch

/-! ## 5. Drafts -/

/-- The line of a draft in the list. -/
def draftLine (active : Option Text) (summary : Drafts.Summary) : Text :=
  let mark := if active = some summary.id then '*' else ' '
  let time := (summary.updated.map (·.minuteText)).getD []
  mark :: ' ' :: summary.id ++ Text.spaces 2 ++ summary.name ++ Text.spaces 2 ++ time ++ ['\n']

/-- The draft with an id, or the one that was opened last. -/
def chosenDraft (store : Store) (id : Option Text) : Task Failure Draft :=
  Task.mapError (·.failure)
    (match id with
    | some id => store.load id
    | none => store.loadActive)

/-- Writes the page of a draft into a directory; gives its path. -/
def writeDraftPage (preset : Preset) (store : Store) (id : Option Text) (directory : Path) :
    Task Failure Path := do
  let draft ← chosenDraft store id
  let html := Page.render preset draft.content.title draft.content.source
  Task.mapError (fun cause => .because ("Failed to export to " ++ directory) cause.message)
    (Page.exportTo directory draft.content.filename html)

/-- Does something with the drafts of a store; gives what is printed. Only deleting may panic. -/
def runOnStore (preset : Preset) (store : Store) : DraftsCommand → Task (Stop Failure) Text
  | .list => do
    let active ← Task.lift store.activeId
    return (← Task.lift store.list).flatMap (draftLine active)
  | .new name => do
    let draft ← Task.certain (Task.mapError (·.failure) (store.create name))
    return draft.id ++ ['\n']
  | .print id => do
    return withLineEnd (← Task.certain (chosenDraft store id)).content.source
  | .delete id => do
    let next ← Task.mapError (Stop.map (·.failure)) (store.delete id)
    return "Deleted " ++ id ++ "; active draft is now " ++ next ++ ['\n']
  | .writePage id directory => do
    return (← Task.certain (writeDraftPage preset store id directory)) ++ ['\n']

/-- Does something with the drafts of a preset; gives what is printed. -/
def runDrafts (setting : Setting) (command : DraftsCommand) : Task (Stop Failure) Text := do
  let preset ← Task.certain setting.preset
  let store ←
    Task.certain (Task.mapError (·.failure) (Store.openFor setting.settings.draftRoot preset))
  runOnStore preset store command

/-! ## 6. Presets -/

/-- The line of a preset in the list. -/
def presetLine (preset : Preset) : Text :=
  preset.id ++ Text.spaces 2 ++ preset.displayName ++ Text.spaces 2
    ++ '(' :: preset.path.getD "built-in" ++ [')', '\n']

/-- The lines of a reference sheet, with the meanings in a column. -/
def sheetText (sheet : List ReferenceItem) : Text :=
  let width := (sheet.map fun item => item.writing.byteLength).foldl max 0
  sheet.flatMap fun item =>
    Text.padRight width item.writing ++ Text.spaces 2 ++ item.meaning ++ ['\n']

/-- Tells something about presets; gives what is printed. -/
def runPresets (setting : Setting) (command : PresetsCommand) : Task Failure Text := do
  match command with
  | .list => return setting.catalog.presets.flatMap presetLine
  | .reference none => return sheetText (← setting.preset).referenceSheet
  | .reference (some id) =>
    match setting.catalog.get? id with
    | some preset => return sheetText preset.referenceSheet
    | none => throw (unknownPreset id)

/-! ## 7. The run -/

/-- Where a run comes to. -/
inductive Ending where
  | finished (outcome : Outcome)
  | watching (watch : Watch)
  | editing (editor : Editor)

/-- Opens the settings in an editor. What that prints is printed. -/
def runSettings : StateM Session Outcome := do
  let (result, problem) ← Settings.edit
  let outcome := Outcome.ofResult (problem.elim (.ok []) fun problem => .error problem.failure)
  return { outcome with stdout := result.stdout, stderr := result.stderr ++ outcome.stderr }

/-- A run that prints something and is over. -/
def finish (task : Task (Stop Failure) Text) : StateM Session Ending := do
  return .finished (.ofStop (← task.run))

/-- A run that goes on unless it fails. -/
def goOn {α : Type} (next : α → Ending) (task : Task Failure α) : StateM Session Ending := do
  match ← task.run with
  | .ok x => return next x
  | .error failure => return .finished (.ofResult (.error failure))

/-- Carries out a command. -/
def carryOut (setting : Setting) (command : Command) : StateM Session Ending :=
  match command with
  | .compile request => finish (Task.certain (runCompile setting request))
  | .watch request => goOn .watching (runWatch setting request)
  | .edit =>
    goOn .editing
      (Task.mapError (·.failure) (Editor.start setting.settings setting.catalog setting.requested))
  | .drafts command => finish (runDrafts setting command)
  | .presets command => finish (Task.certain (runPresets setting command))
  | .settings => do return .finished (← runSettings)

/-- A run of the program with its arguments. -/
def run (arguments : List Text) : StateM Session Ending := do
  match Invocation.ofArguments arguments with
  | .error refusal => return .finished (.ofRefusal refusal)
  | .ok invocation =>
    match ← (setUp invocation).run with
    | .error failure => return .finished (.ofResult (.error failure))
    | .ok setting => carryOut setting invocation.command

end MarkupDesk.Shell
