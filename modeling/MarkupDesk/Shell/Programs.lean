/-
`Shell/Programs.lean` -- the programs that an editor command may name.

Only programs that need no terminal can be run here: `true`, `false`, `echo`, `cat` and
`cp`. What else has a name can be read, but not run.
-/
import MarkupDesk.Files.Access
import MarkupDesk.Session
import MarkupDesk.Text.Digits

set_option autoImplicit false

namespace MarkupDesk.Shell

open Files (Disk FileError)

/-- How a program ended, and what it wrote. -/
structure ProgramResult where
  code : Nat
  stdout : Text
  stderr : Text
  deriving DecidableEq, Repr

namespace ProgramResult

/-- A program that succeeded and wrote a text. -/
def success (stdout : Text) : ProgramResult := ⟨0, stdout, []⟩

/-- A program that failed and said why. -/
def failure (stderr : Text) : ProgramResult := ⟨1, [], stderr⟩

end ProgramResult

/-- The file that is always empty. -/
def emptyFile : Path := "/dev/null"

/-- The text of a file, with the empty one among them. -/
def readAny (path : Path) : Task FileError Text :=
  if path = emptyFile then pure [] else Files.readText path

/-- How `cat` shows texts. -/
structure CatStyle where
  /-- Are lines numbered? -/
  numbers : Bool
  /-- Are lines numbered that hold something, and only those? -/
  numbersFilled : Bool
  /-- Is of several empty lines in a row only one shown? -/
  squeezes : Bool
  /-- Is the end of a line marked? -/
  marksEnds : Bool
  /-- Are tabs shown? -/
  showsTabs : Bool
  /-- Are other characters shown that do not print? -/
  showsControls : Bool
  deriving DecidableEq, Repr

namespace CatStyle

/-- Texts as they are. -/
def plain : CatStyle := ⟨false, false, false, false, false, false⟩

/-- The style with an option, if there is one with this letter. -/
def withOption? (style : CatStyle) : Char → Option CatStyle
  | 'n' => some { style with numbers := true }
  | 'b' => some { style with numbersFilled := true }
  | 's' => some { style with squeezes := true }
  | 'E' => some { style with marksEnds := true }
  | 'T' => some { style with showsTabs := true }
  | 'v' => some { style with showsControls := true }
  | 'e' => some { style with marksEnds := true, showsControls := true }
  | 't' => some { style with showsTabs := true, showsControls := true }
  | 'A' => some { style with marksEnds := true, showsTabs := true, showsControls := true }
  | 'u' => some style
  | _ => none

/-- How a byte of a control or of ASCII is shown. -/
def showAscii (n : Nat) : Text :=
  if n < 0x20 then ['^', Char.ofNat (n + 0x40)]
  else if n = 0x7F then ['^', '?']
  else [Char.ofNat n]

/-- How a character is shown. -/
def showChar (style : CatStyle) (c : Char) : Text :=
  if c = '\t' then if style.showsTabs then ['^', 'I'] else [c]
  else if style.showsControls then
    (String.utf8EncodeChar c).flatMap fun byte =>
      if byte.toNat < 0x80 then showAscii byte.toNat
      else 'M' :: '-' :: showAscii (byte.toNat - 0x80)
  else [c]

/-- The number of a line and a tab. -/
def numberText (number : Nat) : Text :=
  let digits := Text.ofNat number
  Text.spaces (6 - digits.length) ++ digits ++ ['\t']

/-- The lines, which end with line feeds but for the last one, as they are shown. `empty`
tells whether the line before is empty, and `number` is that of the next line. -/
def showLines (style : CatStyle) : (empty : Bool) → (number : Nat) → List Text → Text
  | _, _, [] => []
  | _, _, [[]] => []
  | empty, number, line :: lines =>
    let ends := !lines.isEmpty
    if style.squeezes && empty && line.isEmpty && ends then
      showLines style true number lines
    else
      let numbered := if style.numbersFilled then !line.isEmpty else style.numbers
      let head := if numbered then numberText number else []
      let shown := line.flatMap style.showChar
      let tail : Text :=
        if !ends then [] else if style.marksEnds then ['$', '\n'] else ['\n']
      head ++ shown ++ tail
        ++ showLines style line.isEmpty (if numbered then number + 1 else number) lines

end CatStyle

/-- The arguments of `cat`: how texts are shown, and the files. An argument that is no
option in whole is a file. -/
def catArguments (arguments : List Text) : CatStyle × List Path :=
  arguments.foldl (fun (style, paths) argument =>
    let options : Option CatStyle :=
      match argument with
      | '-' :: c :: letters => (c :: letters).foldlM CatStyle.withOption? style
      | _ => none
    match options with
    | some style => (style, paths)
    | none => (style, paths ++ [argument])) (CatStyle.plain, [])

/-- The texts of files one behind the other, and the complaints about those that cannot
be read. -/
def readAll : List Path → StateM Session (Text × Text)
  | [] => return ([], [])
  | path :: paths => do
    let found ← (readAny path).run
    let (texts, complaints) ← readAll paths
    match found with
    | .ok t => return (t ++ texts, complaints)
    | .error problem =>
      let complaint : Text := "cat: " ++ path ++ ": " ++ problem.reason ++ ['\n']
      return (texts, complaint ++ complaints)

/-- Shows files one behind the other. -/
def runCat (arguments : List Text) : StateM Session ProgramResult := do
  let (style, paths) := catArguments arguments
  let (t, complaints) ← readAll paths
  let shown := if style = .plain then t else style.showLines false 1 (Text.splitOn '\n' t)
  return ⟨if complaints.isEmpty then 0 else 1, shown, complaints⟩

/-- Copies a file. -/
def runCopy : List Path → StateM Session ProgramResult
  | [source, target] => do
    let copy : Task FileError Unit := do Files.writeText target (← readAny source)
    match ← copy.run with
    | .ok _ => return .success []
    | .error problem => return .failure ("cp: " ++ problem.reason ++ ['\n'])
  | _ => return .failure "cp: usage: cp source target\n"

/-- Is the argument one or more options of `echo`? -/
def isEchoOption : Text → Bool
  | '-' :: c :: rest =>
    (c :: rest).all fun letter => letter == 'n' || letter == 'e' || letter == 'E'
  | _ => false

/-- The character that a backslash and this letter stand for in what `echo` prints. -/
def echoEscape? : Char → Option Char
  | 'a' => some '\x07'
  | 'b' => some '\x08'
  | 'e' => some '\x1b'
  | 'f' => some '\x0c'
  | 'n' => some '\n'
  | 'r' => some '\r'
  | 't' => some '\t'
  | 'v' => some '\x0b'
  | '\\' => some '\\'
  | _ => none

/-- The number of the leading digits in a base, of which at most `count` are taken, and
the rest. -/
def takeNumber (base : Nat) : (count value : Nat) → Text → Nat × Text
  | 0, value, t => (value, t)
  | _ + 1, value, [] => (value, [])
  | count + 1, value, c :: rest =>
    match (Text.hexDigit? c).filter (· < base) with
    | some digit => takeNumber base count (base * value + digit) rest
    | none => (value, c :: rest)

/-- The character of one byte. A byte beyond ASCII is none by itself. -/
def charOfByte (n : Nat) : Char :=
  if n % 256 < 0x80 then Char.ofNat (n % 256) else '\uFFFD'

/-- A word with its escapes replaced, and whether the output goes on behind it. `fuel`
bounds the number of characters. -/
def expandEscapes : (fuel : Nat) → Text → Text × Bool
  | fuel + 1, '\\' :: c :: rest =>
    let more (shown : Text) (rest : Text) : Text × Bool :=
      let (t, goesOn) := expandEscapes fuel rest
      (shown ++ t, goesOn)
    if c = 'c' then ([], false)
    else if c = 'x' ∧ (rest.head?.bind Text.hexDigit?).isSome then
      let (n, rest) := takeNumber 16 2 0 rest
      more [charOfByte n] rest
    else if c = '0' then
      let (n, rest) := takeNumber 8 3 0 rest
      more [charOfByte n] rest
    else if '1' ≤ c ∧ c ≤ '7' then
      let (n, rest) := takeNumber 8 3 0 (c :: rest)
      more [charOfByte n] rest
    else
      match echoEscape? c with
      | some shown => more [shown] rest
      | none => more ['\\', c] rest
  | fuel + 1, c :: rest =>
    let (t, goesOn) := expandEscapes fuel rest
    (c :: t, goesOn)
  | _, t => (t, true)

/-- What `echo` prints: its arguments with blanks between them, and a line feed unless an
option leaves it out. Escapes are replaced where the last option about them asks for it;
one of them ends the output. -/
def echoText (arguments : List Text) : Text :=
  let options := (arguments.takeWhile isEchoOption).flatten
  let line := Text.join [' '] (arguments.dropWhile isEchoOption)
  let escapes := (options.filter fun c => c == 'e' || c == 'E').getLast? == some 'e'
  let (shown, goesOn) := if escapes then expandEscapes line.length line else (line, true)
  if goesOn && !options.contains 'n' then shown ++ ['\n'] else shown

/-- The directories in which the programs stand. -/
def programDirectories : List Text := ["/bin/", "/usr/bin/"]

/-- The name of a program without the directory in which it stands. -/
def bareName (name : Text) : Text :=
  (programDirectories.findSome? fun directory => directory.isPrefixOf? name).getD name

/-- Why nothing can be run by a name. A file of the session is no program. -/
def whyNoProgram (name : Text) : StateM Session FileError := do
  if name.contains '/' || name = ['.'] || name = ['.', '.'] then
    Files.inspect fun disk cwd =>
      match disk.stat cwd name with
      | .ok _ => .denied
      | .error problem => problem
  else if Disk.maxNameBytes < Text.byteLength name then return .nameTooLong
  else return .notFound

/-- Runs a program by its name, or tells why there is none. -/
def runProgram (name : Text) (arguments : List Text) :
    StateM Session (Except FileError ProgramResult) := do
  match String.ofList (bareName name) with
  | "true" => return .ok (.success [])
  | "false" => return .ok (.failure [])
  | "echo" => return .ok (.success (echoText arguments))
  | "cat" => return .ok (← runCat arguments)
  | "cp" => return .ok (← runCopy arguments)
  | _ => return .error (← whyNoProgram name)

end MarkupDesk.Shell
