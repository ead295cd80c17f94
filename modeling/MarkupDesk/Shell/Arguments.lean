/-
`Shell/Arguments.lean` -- the arguments of a program, sorted into options and operands.

A level of the command line says which options it knows, how many operands it takes and
which subcommands may end it. `scan` goes through the arguments from the left and stops
at the first one that does not fit, or that asks for help or the version. An option
takes its value from behind an `=`, from the rest of the argument if it is written with
one letter, or from the next argument unless that looks like an option. Behind `--`
everything is an operand.
-/
import MarkupDesk.Dictionary

set_option autoImplicit false

namespace MarkupDesk.Shell

/-- What an option is given. -/
inductive ValueKind where
  /-- No value. -/
  | flag
  /-- Any text. -/
  | text
  /-- A path, which cannot be empty. -/
  | path
  deriving DecidableEq, Repr

/-- An option, by its long name and perhaps a letter. -/
structure OptionSpec where
  name : Text
  letter : Option Char
  kind : ValueKind
  deriving DecidableEq, Repr

/-- What a level of the command line knows. -/
structure LevelSpec where
  options : List OptionSpec
  /-- What the operands may be, in order. -/
  operands : List ValueKind
  subcommands : List Text
  /-- Is there an option that asks for the version? -/
  hasVersion : Bool
  deriving DecidableEq, Repr

/-- Why a command line is not carried out. -/
inductive Refusal where
  | usage
  | help
  | version
  deriving DecidableEq, Repr

/-- The options and operands of a level. -/
structure Arguments where
  /-- The values of the options by their long names. -/
  options : Dictionary Text Text
  operands : List Text
  deriving DecidableEq, Repr

namespace Arguments

/-- No options and no operands. -/
def empty : Arguments := ⟨[], []⟩

/-- The value of an option. -/
def value? (arguments : Arguments) (name : Text) : Option Text :=
  Dictionary.get? arguments.options name

/-- Is the option given? -/
def has (arguments : Arguments) (name : Text) : Bool := (arguments.value? name).isSome

/-- The operand at a position. -/
def operand? (arguments : Arguments) (position : Nat) : Option Text :=
  arguments.operands[position]?

end Arguments

/-- Can the text be the value? -/
def ValueKind.accepts : ValueKind → Text → Bool
  | .path, t => !t.isEmpty
  | _, _ => true

/-- One option more. It cannot be given twice. -/
def addOption (spec : OptionSpec) (value : Text) (found : Arguments) : Except Refusal Arguments :=
  if found.has spec.name || !spec.kind.accepts value then .error .usage
  else .ok { found with options := Dictionary.insert found.options spec.name value }

/-- One operand more, if the level takes it. -/
def addOperand (level : LevelSpec) (value : Text) (found : Arguments) :
    Except Refusal Arguments :=
  match level.operands[found.operands.length]? with
  | none => .error .usage
  | some kind =>
    if kind.accepts value then .ok { found with operands := found.operands ++ [value] }
    else .error .usage

/-- How an argument is written. -/
inductive ArgumentForm where
  /-- The mark `--` behind which there are operands only. -/
  | endOfOptions
  /-- An option by its name, with the value behind an `=`. -/
  | long (name : Text) (value : Option Text)
  /-- Options by letters. -/
  | letters (letters : Text)
  | plain
  deriving DecidableEq, Repr

/-- The form of an argument. -/
def formOf : Text → ArgumentForm
  | ['-', '-'] => .endOfOptions
  | '-' :: '-' :: t =>
    match Text.splitOnce? '=' t with
    | some (name, value) => .long name (some value)
    | none => .long t none
  | '-' :: c :: t => .letters (c :: t)
  | _ => .plain

/-- What was found so far, and the option that the next argument is the value of. -/
structure Progress where
  found : Arguments
  pending : Option OptionSpec
  deriving DecidableEq, Repr

/-- The progress when no option waits for its value. -/
def Progress.settled (found : Arguments) : Progress := ⟨found, none⟩

/-- What an option by its name comes to. -/
def longOption (level : LevelSpec) (name : Text) (value : Option Text) (found : Arguments) :
    Except Refusal Progress :=
  if name = ("help" : Text) then .error (if value.isNone then .help else .usage)
  else if level.hasVersion ∧ name = ("version" : Text) then
    .error (if value.isNone then .version else .usage)
  else
    match level.options.find? fun spec => spec.name = name, value with
    | none, _ => .error .usage
    | some spec, some value =>
      if spec.kind = .flag then .error .usage else (addOption spec value found).map .settled
    | some spec, none =>
      if spec.kind = .flag then (addOption spec [] found).map .settled else .ok ⟨found, some spec⟩

/-- What options by letters come to. A letter whose option takes a value takes the rest
of the argument as it. -/
def letterOptions (level : LevelSpec) : Text → Arguments → Except Refusal Progress
  | [], found => .ok (.settled found)
  | c :: rest, found =>
    if c = 'h' then .error .help
    else if level.hasVersion ∧ c = 'V' then .error .version
    else
      match level.options.find? fun spec => spec.letter = some c with
      | none => .error .usage
      | some spec =>
        if spec.kind = .flag then
          match addOption spec [] found with
          | .error refusal => .error refusal
          | .ok found => letterOptions level rest found
        else
          match rest with
          | [] => .ok ⟨found, some spec⟩
          | '=' :: value => (addOption spec value found).map .settled
          | value => (addOption spec value found).map .settled

/-- What an argument comes to that is no subcommand and does not end the options. -/
def addArgument (level : LevelSpec) (argument : Text) (progress : Progress) :
    Except Refusal Progress :=
  match progress.pending, formOf argument with
  | some spec, .plain => (addOption spec argument progress.found).map .settled
  | some _, _ => .error .usage
  | none, .long name value => longOption level name value progress.found
  | none, .letters letters => letterOptions level letters progress.found
  | none, _ => (addOperand level argument progress.found).map .settled

/-- All arguments as operands. -/
def scanOperands (level : LevelSpec) (arguments : List Text) (found : Arguments) :
    Except Refusal Arguments :=
  arguments.foldlM (fun found argument => addOperand level argument found) found

/-- What was found on a level, and the subcommand that ended it with the arguments behind
it. -/
structure Scan where
  found : Arguments
  subcommand : Option (Text × List Text)
  deriving DecidableEq, Repr

/-- Goes through the arguments that are left on a level. -/
def scanFrom (level : LevelSpec) : List Text → Progress → Except Refusal Scan
  | [], progress => if progress.pending.isNone then .ok ⟨progress.found, none⟩ else .error .usage
  | argument :: rest, progress =>
    if progress.pending.isNone ∧ formOf argument = .endOfOptions then
      (scanOperands level rest progress.found).map fun found => ⟨found, none⟩
    else if progress.pending.isNone ∧ level.subcommands.contains argument then
      .ok ⟨progress.found, some (argument, rest)⟩
    else
      match addArgument level argument progress with
      | .error refusal => .error refusal
      | .ok progress => scanFrom level rest progress

/-- Goes through the arguments of a level. -/
def scan (level : LevelSpec) (arguments : List Text) : Except Refusal Scan :=
  scanFrom level arguments (.settled .empty)

end MarkupDesk.Shell
