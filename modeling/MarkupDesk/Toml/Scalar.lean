/-
`Toml/Scalar.lean` -- strings, numbers and points in time.

Every reader takes the unread text and gives a value and the rest, or the fault for which
the text does not begin with one. Readers are strict: what is not a value by the grammar
of TOML 1.0 is refused. An integer must fit 64 bits with a sign, and a number with a
fraction must not pass the largest double, except below zero.

A reader's fault is final as soon as its form is certain: an opening quote, the dash
behind a year or the point in a number leave no other form to try.
-/
import MarkupDesk.Calendar.Date
import MarkupDesk.Toml.Value
import MarkupDesk.Text.Digits

set_option autoImplicit false

namespace MarkupDesk.Toml

open Number (Binary64 pow10 pow2)
open Calendar (Date)

/-! ## 1. Characters -/

/-- Is the character a blank within a line? -/
def isBlankChar (c : Char) : Bool := c == ' ' || c == '\t'

/-- May the character stand in a comment or, quotes apart, in a string? -/
def isPlainChar (c : Char) : Bool := c == '\t' || (0x20 ≤ c.toNat && c.toNat ≠ 0x7F)

/-- May the character stand unescaped in a string between double quotes? -/
def isBasicChar (c : Char) : Bool := isPlainChar c && c != '"' && c != '\\'

/-- May the character stand in a string between single quotes? -/
def isLiteralChar (c : Char) : Bool := isPlainChar c && c != '\''

/-- May the character stand in a key without quotes? -/
def isKeyChar (c : Char) : Bool := c.isAlphanum || c == '_' || c == '-'

/-- The text from its next character on that is no blank. -/
def skipBlanks (t : Text) : Text := t.dropWhile isBlankChar

/-- The rest behind a line break. -/
def newline? : Text → Option Text
  | '\n' :: rest => some rest
  | '\r' :: '\n' :: rest => some rest
  | _ => none

/-- The given character. -/
def readMark (mark : Char) : Reader Unit
  | [] => .error (.before [])
  | c :: rest => if c = mark then .ok ((), rest) else .error (.before (c :: rest))

/-! ## 2. Strings -/

/-- The character that a backslash and this letter stand for. -/
def simpleEscape? : Char → Option Char
  | 'b' => some '\x08'
  | 'f' => some '\x0c'
  | 'n' => some '\n'
  | 'r' => some '\r'
  | 't' => some '\t'
  | '\\' => some '\\'
  | '"' => some '"'
  | _ => none

/-- What may follow a backslash. -/
def escapeLetters : List Expected :=
  ['b', 'f', 'n', 'r', 't', 'u', 'U', '\\', '"'].map fun c => .symbol [c]

/-- The character with this number, if there is one. -/
def charOfNat? (n : Nat) : Option Char :=
  if n < 0xD800 ∨ (0xDFFF < n ∧ n ≤ 0x10FFFF) then some (Char.ofNat n) else none

/-- The character written by the given count of hexadecimal digits. -/
def readCodePoint (count : Nat) : Reader Char := fun t =>
  let digits := t.take count
  match Text.hexValue? digits with
  | none => .error (.before t)
  | some n =>
    if digits.length < count then .error (.before t)
    else
      match charOfNat? n with
      | none => .error (.because t .outOfRange)
      | some c => .ok (c, t.drop count)

/-- The character of an escape, read behind the backslash. A letter that makes no escape
counts as read. -/
def readEscape : Reader Char
  | [] => .error (.before [])
  | c :: rest =>
    if c = 'u' then ((readCodePoint 4).within .shortCode).final rest
    else if c = 'U' then ((readCodePoint 8).within .longCode).final rest
    else
      match simpleEscape? c with
      | some e => .ok (e, rest)
      | none =>
        let place := if c.utf8Size = 1 then rest else c :: rest
        .error (((Fault.before place).within .escape).expecting escapeLetters).final

/-- The rest behind a line break that is escaped, and behind all white space that
follows, read behind the backslash. -/
def skipEscapedBreak? (t : Text) : Option Text :=
  (newline? (skipBlanks t)).map skipBlankLines
where
  /-- The text behind blanks and line breaks. -/
  skipBlankLines : Text → Text
    | '\r' :: '\n' :: rest => skipBlankLines rest
    | c :: rest => if isBlankChar c || c == '\n' then skipBlankLines rest else c :: rest
    | [] => []

/-- The fault of a string that does not go on or end here. -/
def unfinished {α : Type} (subject : Subject) (t : Text) : Except Fault α :=
  .error ((Fault.before t).within subject).final

/-- The characters of a string on one line up to its closing double quote. `fuel` bounds
their number. -/
def readBasicWithin : (fuel : Nat) → Reader Text
  | 0, t => unfinished .basicString t
  | _ + 1, [] => unfinished .basicString []
  | fuel + 1, c :: rest =>
    if c = '"' then .ok ([], rest)
    else if c = '\\' then
      match readEscape rest with
      | .ok (e, rest) => do
        let (t, rest) ← readBasicWithin fuel rest
        .ok (e :: t, rest)
      | .error fault =>
        if fault.isFinal then .error fault else unfinished .basicString (c :: rest)
    else if isBasicChar c then do
      let (t, rest) ← readBasicWithin fuel rest
      .ok (c :: t, rest)
    else unfinished .basicString (c :: rest)

/-- The characters of a string on one line, read behind its opening double quote. -/
def readBasic : Reader Text := fun t => readBasicWithin (t.length + 1) t

/-- The characters of a string on one line, read behind its opening single quote. -/
def readLiteral : Reader Text := fun t =>
  match t.dropWhile isLiteralChar with
  | '\'' :: rest => .ok (t.takeWhile isLiteralChar, rest)
  | rest => unfinished .literalString rest

/-- What a run of quotes in a string over several lines is: quotes of the string, or its
end with up to two quotes before it. Gives the quotes of the string, whether it ends,
and the rest. -/
def readQuotes (quote : Char) (t : Text) : Text × Bool × Text :=
  let run := (t.takeWhile (· == quote)).length
  if run < 3 then (List.replicate run quote, false, t.drop run)
  else
    let kept := min (run - 3) 2
    (List.replicate kept quote, true, t.drop (kept + 3))

/-- The characters of a string over several lines up to its closing double quotes. -/
def readLongBasicWithin : (fuel : Nat) → Reader Text
  | 0, t => unfinished .longBasicString t
  | _ + 1, [] => unfinished .longBasicString []
  | fuel + 1, c :: rest =>
    if c = '"' then
      let (quotes, ends, behind) := readQuotes '"' (c :: rest)
      if ends then .ok (quotes, behind)
      else if behind.isEmpty then unfinished .longBasicString (c :: rest)
      else do
        let (t, rest) ← readLongBasicWithin fuel behind
        .ok (quotes ++ t, rest)
    else if c = '\\' then
      match skipEscapedBreak? rest with
      | some rest => readLongBasicWithin fuel rest
      | none =>
        match readEscape rest with
        | .ok (e, rest) => do
          let (t, rest) ← readLongBasicWithin fuel rest
          .ok (e :: t, rest)
        | .error fault =>
          if fault.isFinal then .error fault else unfinished .longBasicString (c :: rest)
    else if isBasicChar c then do
      let (t, rest) ← readLongBasicWithin fuel rest
      .ok (c :: t, rest)
    else
      match newline? (c :: rest) with
      | some rest => do
        let (t, rest) ← readLongBasicWithin fuel rest
        .ok ('\n' :: t, rest)
      | none => unfinished .longBasicString (c :: rest)

/-- Can a string between three single quotes each go on with this text? -/
def continuesLiteral (t : Text) : Bool :=
  (t.head?.map isLiteralChar).getD false || (newline? t).isSome

/-- The characters of a string over several lines up to its closing single quotes. -/
def readLongLiteralWithin : (fuel : Nat) → Reader Text
  | 0, t => unfinished .longLiteralString t
  | _ + 1, [] => unfinished .longLiteralString []
  | fuel + 1, c :: rest =>
    if c = '\'' then
      let (quotes, ends, behind) := readQuotes '\'' (c :: rest)
      if ends then .ok (quotes, behind)
      else if !continuesLiteral behind then unfinished .longLiteralString (c :: rest)
      else do
        let (t, rest) ← readLongLiteralWithin fuel behind
        .ok (quotes ++ t, rest)
    else if isLiteralChar c then do
      let (t, rest) ← readLongLiteralWithin fuel rest
      .ok (c :: t, rest)
    else
      match newline? (c :: rest) with
      | some rest => do
        let (t, rest) ← readLongLiteralWithin fuel rest
        .ok ('\n' :: t, rest)
      | none => unfinished .longLiteralString (c :: rest)

/-- A string over several lines begins behind a line break, if one comes first. -/
def skipFirstBreak (t : Text) : Text := (newline? t).getD t

/-- A string of any form. -/
def readString : Reader Text
  | '"' :: '"' :: '"' :: rest => readLongBasicWithin (rest.length + 1) (skipFirstBreak rest)
  | '"' :: rest => readBasic rest
  | '\'' :: '\'' :: '\'' :: rest => readLongLiteralWithin (rest.length + 1) (skipFirstBreak rest)
  | '\'' :: rest => readLiteral rest
  | t => .error (.before t)

/-! ## 3. Numbers -/

/-- Digits with single underscores between them, of which there is at least one. The
digits are given without the underscores. -/
def readDigits (isDigit : Char → Bool) : Reader Text
  | [] => .error (.before [])
  | c :: rest => if isDigit c then more c rest else .error (.before (c :: rest))
where
  /-- The digits from `c` on, which is one. -/
  more (c : Char) : Reader Text
    | [] => .ok ([c], [])
    | '_' :: [] => .error ((Fault.before []).expecting [.digit]).final
    | '_' :: d :: rest =>
      if isDigit d then do
        let (digits, rest) ← more d rest
        .ok (c :: digits, rest)
      else .error ((Fault.before (d :: rest)).expecting [.digit]).final
    | d :: rest =>
      if isDigit d then do
        let (digits, rest) ← more d rest
        .ok (c :: digits, rest)
      else .ok ([c], d :: rest)

/-- A sign, if there is one: is it a minus? -/
def readSign : Text → Bool × Text
  | '-' :: rest => (true, rest)
  | '+' :: rest => (false, rest)
  | t => (false, t)

/-- Decimal digits behind a sign, if there is one. They do not begin with a zero, unless
that is all. -/
def readDecimal : Reader (Bool × Text) := Reader.within .integer fun t =>
  let (negative, t) := readSign t
  match t with
  | '0' :: rest => .ok ((negative, ['0']), rest)
  | t => (readDigits Char.isDigit t).map fun read => ((negative, read.1), read.2)

/-- The integer, which must fit 64 bits with a sign; `t` is where it stands. -/
def checkInteger (t : Text) (value : Int) : Except Fault Toml :=
  if (pow2 63 : Int) ≤ value then .error (Fault.because t .tooLarge).final
  else if value < -(pow2 63 : Int) then .error (Fault.because t .tooSmall).final
  else .ok (.integer value)

/-- The digits of an integer in a base, behind `0x`, `0o` or `0b`. -/
def readInBase (subject : Subject) (base : Nat) : Reader Int := fun t => do
  let isDigit (c : Char) : Bool := (Text.hexDigit? c).any (· < base)
  let (digits, rest) ← ((readDigits isDigit).within subject).final t
  let value := digits.foldl (fun value c => value * base + (Text.hexDigit? c).getD 0) 0
  .ok ((value : Int), rest)

/-- An integer. -/
def readInteger : Reader Toml := fun t => do
  let (value, rest) ←
    match t with
    | '0' :: 'x' :: rest => readInBase .hexInteger 16 rest
    | '0' :: 'o' :: rest => readInBase .octalInteger 8 rest
    | '0' :: 'b' :: rest => readInBase .binaryInteger 2 rest
    | t => do
      let ((negative, digits), rest) ← readDecimal t
      let size : Int := (Text.digitsValue digits : Nat)
      .ok (if negative then -size else size, rest)
  .ok (← checkInteger t value, rest)

/-- The decimal exponents beyond which a number is out of range or zero whatever its
first digit is. -/
def farExponent : Int := 400

/-- The double nearest to `digits * 10 ^ exponent`, unless it is beyond the largest one. -/
def realOf? (negative : Bool) (digits : Text) (exponent : Int) : Option Binary64 :=
  let value := Text.digitsValue digits
  let leading := exponent + ((Text.ofNat value).length : Int)
  if value = 0 ∨ leading < -farExponent then some (Binary64.zero negative)
  else if farExponent < leading then none
  else Binary64.ofRatio? negative (value * pow10 exponent.toNat) (pow10 (-exponent).toNat)

/-- The value of an exponent, read behind the `e`. -/
def readExponent : Reader Int := fun t => do
  let (negative, t) := readSign t
  let (digits, rest) ← (Reader.final (readDigits Char.isDigit)) t
  let size : Int := (Text.digitsValue digits : Nat)
  .ok (if negative then -size else size, rest)

/-- The digits of a fraction, which may be missing if an exponent comes. -/
def readFraction : Reader Text
  | '.' :: rest => ((readDigits Char.isDigit).expecting [.digit]).final rest
  | 'e' :: rest => .ok ([], 'e' :: rest)
  | 'E' :: rest => .ok ([], 'E' :: rest)
  | t => .error (.before t)

/-- The exponent, or zero where there is none. -/
def readExponentPart : Reader Int
  | 'e' :: rest => readExponent rest
  | 'E' :: rest => readExponent rest
  | t => .ok (0, t)

/-- A number in digits with a fraction or an exponent. -/
def readDecimalFraction : Reader Real := fun t => do
  let ((negative, whole), behind) ← readDecimal t
  let (fraction, behind) ← readFraction behind
  let (exponent, rest) ← readExponentPart behind
  match realOf? negative (whole ++ fraction) (exponent - fraction.length) with
  | some value => .ok (.finite value, rest)
  | none =>
    if negative then .ok (.infinite true, rest) else .error (Fault.before t).final

/-- Infinity, or what is no number. -/
def readSpecial : Reader Real := fun t =>
  let (negative, behind) := readSign t
  match behind with
  | 'i' :: 'n' :: 'f' :: rest => .ok (.infinite negative, rest)
  | 'n' :: 'a' :: 'n' :: rest => .ok (.notNumber, rest)
  | behind => .error (.before behind)

/-- A number with a fraction or an exponent, or one of the special ones. -/
def readFloat : Reader Toml := fun t =>
  ((readDecimalFraction.orElse readSpecial).within .float t).map fun read =>
    (.float read.1, read.2)

/-! ## 4. Points in time -/

/-- A number of exactly `count` digits between two bounds. -/
def readField (count low high : Nat) : Reader Nat := fun t =>
  let digits := t.take count
  let value := Text.digitsValue digits
  if digits.length = count ∧ digits.all Char.isDigit then
    if low ≤ value ∧ value ≤ high then .ok (value, t.drop count)
    else .error (.because t .outOfRange)
  else .error (.before t)

/-- A date. -/
def readDate : Reader Unit := fun t => do
  let (year, t) ← readField 4 0 9999 t
  let (_, t) ← readMark '-' t
  let (month, t) ← (readField 2 1 12).final t
  let (_, t) ← (readMark '-').final t
  let (day, rest) ← (readField 2 1 31).final t
  if (Date.mk (year : Int) month day).isValid then .ok ((), rest)
  else .error (Fault.because t .outOfRange).final

/-- The rest behind the fraction of a second, if there is one. -/
def skipSecondFraction : Text → Text
  | '.' :: c :: rest => if c.isDigit then rest.dropWhile Char.isDigit else '.' :: c :: rest
  | t => t

/-- A time of day. -/
def readClock : Reader Unit := fun t => do
  let (_, t) ← readField 2 0 23 t
  let (_, t) ← readMark ':' t
  let (_, t) ← (readField 2 0 59).final t
  let (_, t) ← (readMark ':').final t
  let (_, t) ← (readField 2 0 60).final t
  .ok ((), skipSecondFraction t)

/-- An offset from UTC. -/
def readOffset : Reader Unit := Reader.within .timeOffset fun t =>
  match t with
  | [] => .error (.before [])
  | c :: rest =>
    if c = 'Z' ∨ c = 'z' then .ok ((), rest)
    else if c = '+' ∨ c = '-' then do
      let (_, t) ← (readField 2 0 23).final rest
      let (_, t) ← (readMark ':').final t
      let (_, t) ← (readField 2 0 59).final t
      .ok ((), t)
    else .error (.before (c :: rest))

/-- The time of day and the offset that may follow a date. -/
def readClockOfDate : Reader Unit
  | [] => .error (.before [])
  | c :: rest =>
    if c = 'T' ∨ c = 't' ∨ c = ' ' then do
      let (_, t) ← readClock rest
      let (_, t) ← readOffset.optional t
      .ok ((), t)
    else .error (.before (c :: rest))

/-- A date, with a time of day or without. -/
def readDateTime : Reader Unit := Reader.within .dateTime fun t => do
  let (_, t) ← readDate t
  let (_, t) ← readClockOfDate.optional t
  .ok ((), t)

/-- A point in time: a date, a time of day, or both with or without an offset. -/
def readTime : Reader Toml := fun t =>
  (readDateTime.orElse (readClock.within .time) t).map fun read => (.time, read.2)

end MarkupDesk.Toml
