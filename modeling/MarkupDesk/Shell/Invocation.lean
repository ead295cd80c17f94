/-
`Shell/Invocation.lean` -- what the program is asked to do.

The command line has the levels of the program, of its subcommands, and of the
subcommands of `drafts` and `presets`. The option for the preset is known on every
level; where it is given on several, the innermost counts. Without a subcommand the
editor is opened.
-/
import MarkupDesk.Files.Path
import MarkupDesk.Shell.Arguments

set_option autoImplicit false

namespace MarkupDesk.Shell

/-! ## 1. Commands -/

/-- What to do with the drafts of a preset. -/
inductive DraftsCommand where
  | list
  | new (name : Text)
  /-- Prints the source of a draft; of the one opened last where none is named. -/
  | print (id : Option Text)
  | delete (id : Text)
  /-- Writes the page of a draft into a directory. -/
  | writePage (id : Option Text) (directory : Path)
  deriving DecidableEq, Repr

/-- What to tell about presets. -/
inductive PresetsCommand where
  | list
  /-- Prints the reference sheet of a preset. -/
  | reference (id : Option Text)
  deriving DecidableEq, Repr

/-- What to compile, and how. -/
structure CompileRequest where
  file : Path
  /-- The file of the rules that replace those of the preset. -/
  rules : Option Path
  /-- Is the template left out? -/
  bodyOnly : Bool
  output : Option Path
  title : Text
  deriving DecidableEq, Repr

/-- What to compile again and again. -/
structure WatchRequest where
  file : Path
  output : Path
  title : Text
  deriving DecidableEq, Repr

/-- What the program can do. -/
inductive Command where
  | compile (request : CompileRequest)
  | watch (request : WatchRequest)
  | edit
  | drafts (command : DraftsCommand)
  | presets (command : PresetsCommand)
  | settings
  deriving DecidableEq, Repr

/-- A command, and the preset it is to be done with if one is named. -/
structure Invocation where
  preset : Option Text
  command : Command
  deriving DecidableEq, Repr

/-! ## 2. Levels -/

/-- The option that names the preset. -/
def presetOption : OptionSpec := ⟨"preset", none, .text⟩

/-- The option that names the output file. -/
def outputOption : OptionSpec := ⟨"output", some 'o', .path⟩

/-- The option that gives the title. -/
def titleOption : OptionSpec := ⟨"title", none, .text⟩

/-- A level that no subcommand ends. -/
def LevelSpec.leaf (options : List OptionSpec) (operands : List ValueKind) : LevelSpec :=
  ⟨presetOption :: options, operands, [], false⟩

/-- A level that a subcommand ends. -/
def LevelSpec.branch (subcommands : List Text) (hasVersion : Bool) : LevelSpec :=
  ⟨[presetOption], [], subcommands ++ [("help" : Text)], hasVersion⟩

/-- The level of the program. -/
def programLevel : LevelSpec :=
  .branch ["compile", "watch", "edit", "drafts", "presets", "config"] true

/-- The level of `compile`. -/
def compileLevel : LevelSpec :=
  .leaf [⟨"rules", none, .path⟩, ⟨"body", none, .flag⟩, outputOption, titleOption] [.path]

/-- The level of `watch`. -/
def watchLevel : LevelSpec := .leaf [outputOption, titleOption] [.path]

/-- The level of `drafts`. -/
def draftsLevel : LevelSpec := .branch ["list", "new", "show", "delete", "export"] false

/-- The level of `presets`. -/
def presetsLevel : LevelSpec := .branch ["list", "reference"] false

/-! ## 3. From arguments to commands -/

/-- What must be given. -/
def required (value : Option Text) : Except Refusal Text :=
  match value with
  | some t => .ok t
  | none => .error .usage

/-- The arguments of a level without subcommands. -/
def scanLeaf (level : LevelSpec) (arguments : List Text) : Except Refusal Arguments :=
  (scan level arguments).map (·.found)

/-- The request to compile. -/
def CompileRequest.ofArguments (found : Arguments) : Except Refusal CompileRequest := do
  let file ← required (found.operand? 0)
  return ⟨file, found.value? "rules", found.has "body", found.value? "output",
    (found.value? "title").getD []⟩

/-- The request to watch. -/
def WatchRequest.ofArguments (found : Arguments) : Except Refusal WatchRequest := do
  let file ← required (found.operand? 0)
  let output ← required (found.value? "output")
  return ⟨file, output, (found.value? "title").getD []⟩

namespace Invocation

/-- The invocation with the preset that its level names. -/
def ofFound (found : Arguments) (command : Command) : Invocation :=
  ⟨found.value? "preset", command⟩

/-- The invocation, with the preset that an outer level names where it names none. -/
def within (outer : Arguments) (invocation : Invocation) : Invocation :=
  { invocation with preset := invocation.preset.or (outer.value? "preset") }

/-- What `drafts` is asked for by a subcommand and its arguments. -/
def ofDrafts (name : Text) (arguments : List Text) : Except Refusal Invocation := do
  if name = ("list" : Text) then
    return ofFound (← scanLeaf (.leaf [] []) arguments) (.drafts .list)
  else if name = ("new" : Text) then
    let found ← scanLeaf (.leaf [] [.text]) arguments
    return ofFound found (.drafts (.new (← required (found.operand? 0))))
  else if name = ("show" : Text) then
    let found ← scanLeaf (.leaf [] [.text]) arguments
    return ofFound found (.drafts (.print (found.operand? 0)))
  else if name = ("delete" : Text) then
    let found ← scanLeaf (.leaf [] [.text]) arguments
    return ofFound found (.drafts (.delete (← required (found.operand? 0))))
  else if name = ("export" : Text) then
    let found ← scanLeaf (.leaf [⟨"dir", none, .path⟩] [.text]) arguments
    let directory := (found.value? "dir").getD ['.']
    return ofFound found (.drafts (.writePage (found.operand? 0) directory))
  else throw .help

/-- What `presets` is asked for by a subcommand and its arguments. -/
def ofPresets (name : Text) (arguments : List Text) : Except Refusal Invocation := do
  if name = ("list" : Text) then
    return ofFound (← scanLeaf (.leaf [] []) arguments) (.presets .list)
  else if name = ("reference" : Text) then
    let found ← scanLeaf (.leaf [] [.text]) arguments
    return ofFound found (.presets (.reference (found.operand? 0)))
  else throw .help

/-- What a level that needs a subcommand is asked for. -/
def ofBranch (level : LevelSpec) (next : Text → List Text → Except Refusal Invocation)
    (arguments : List Text) : Except Refusal Invocation := do
  let outer ← scan level arguments
  match outer.subcommand with
  | none => throw .usage
  | some (name, rest) => return (← next name rest).within outer.found

/-- What the program is asked for by a subcommand and its arguments. -/
def ofSubcommand (name : Text) (arguments : List Text) : Except Refusal Invocation := do
  if name = ("compile" : Text) then
    let found ← scanLeaf compileLevel arguments
    return ofFound found (.compile (← CompileRequest.ofArguments found))
  else if name = ("watch" : Text) then
    let found ← scanLeaf watchLevel arguments
    return ofFound found (.watch (← WatchRequest.ofArguments found))
  else if name = ("edit" : Text) then
    return ofFound (← scanLeaf (.leaf [] []) arguments) .edit
  else if name = ("drafts" : Text) then ofBranch draftsLevel ofDrafts arguments
  else if name = ("presets" : Text) then ofBranch presetsLevel ofPresets arguments
  else if name = ("config" : Text) then
    return ofFound (← scanLeaf (.leaf [] []) arguments) .settings
  else throw .help

/-- What the program is asked for by its arguments. -/
def ofArguments (arguments : List Text) : Except Refusal Invocation := do
  let outer ← scan programLevel arguments
  match outer.subcommand with
  | none => return ofFound outer.found .edit
  | some (name, rest) => return (← ofSubcommand name rest).within outer.found

end Invocation

end MarkupDesk.Shell
