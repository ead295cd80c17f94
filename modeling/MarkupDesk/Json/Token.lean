/-
`Json/Token.lean` -- the scalars of JSON text and the separators between values.

Every function takes the unread text and gives the rest behind what it read, or a
fault. Strings are read by `readString` behind their opening quote; numbers by
`readNumber` behind their sign. The value of a decimal is computed in the order in
which its digits come: a significand of at most 64 bits, then one multiplication
or division by a power of ten.
-/
import MarkupDesk.Json.Problem
import MarkupDesk.Text.Digits

set_option autoImplicit false

namespace MarkupDesk.Json

open Number (Binary64 pow10 pow2)

/-! ## 1. White space and names -/

/-- The four characters that JSON allows between tokens. -/
def isSpace (c : Char) : Bool := c == ' ' || c == '\n' || c == '\t' || c == '\r'

/-- The text from its next token on. -/
def skipSpace (t : Text) : Text := t.dropWhile isSpace

/-- The rest behind a fixed name, such as `rue` of `true`. -/
def readName : (name : Text) → Text → Except Fault Text
  | [], t => .ok t
  | _ :: _, [] => .error (.before .unfinishedValue [])
  | n :: name, c :: rest =>
    if c = n then readName name rest else .error (.reading .expectedIdent (c :: rest))

/-! ## 2. Strings -/

/-- The fault of a text that does not begin with four hexadecimal digits. Four
bytes are taken before they are looked at. -/
def hexFault (t : Text) : Fault :=
  if Text.byteLength t < 4 then ⟨.unfinishedString, 0⟩
  else ⟨.invalidEscape, Text.byteLength t - 4⟩

/-- The number of a `\u` escape, read behind the `u`. -/
def readHexQuad : Text → Except Fault (Nat × Text)
  | a :: b :: c :: d :: rest =>
    match Text.hexValue? [a, b, c, d] with
    | some n => .ok (n, rest)
    | none => .error (hexFault (a :: b :: c :: d :: rest))
  | t => .error (hexFault t)

/-- The rest behind the character that the second half of a surrogate pair needs next. -/
def readPairMark (mark : Char) : Text → Except Fault Text
  | [] => .error (.before .unfinishedString [])
  | c :: rest =>
    if c = mark then .ok rest else .error (.reading .unfinishedSurrogatePair (c :: rest))

/-- The character of a `\u` escape, read behind the `u`. A leading surrogate needs
a second escape with a trailing one. -/
def readUnicodeEscape (t : Text) : Except Fault (Char × Text) := do
  let (n, rest) ← readHexQuad t
  if 0xDC00 ≤ n ∧ n ≤ 0xDFFF then throw (.before .loneSurrogate rest)
  if n < 0xD800 ∨ 0xDBFF < n then return (Char.ofNat n, rest)
  let rest ← readPairMark '\\' rest
  let rest ← readPairMark 'u' rest
  let (m, rest) ← readHexQuad rest
  if m < 0xDC00 ∨ 0xDFFF < m then throw (.before .loneSurrogate rest)
  return (Char.ofNat (0x10000 + (n - 0xD800) * 0x400 + (m - 0xDC00)), rest)

/-- The character that a backslash and this letter stand for. -/
def simpleEscape? : Char → Option Char
  | '"' => some '"'
  | '\\' => some '\\'
  | '/' => some '/'
  | 'b' => some '\x08'
  | 'f' => some '\x0c'
  | 'n' => some '\n'
  | 'r' => some '\r'
  | 't' => some '\t'
  | _ => none

/-- The character of an escape, read behind the backslash. -/
def readEscape : Text → Except Fault (Char × Text)
  | [] => .error (.before .unfinishedString [])
  | c :: rest =>
    match simpleEscape? c with
    | some e => .ok (e, rest)
    | none =>
      if c = 'u' then readUnicodeEscape rest else .error (.reading .invalidEscape (c :: rest))

/-- The characters of a string up to its closing quote, and the rest behind it.
`fuel` bounds the number of characters. -/
def readStringWithin : (fuel : Nat) → Text → Except Fault (Text × Text)
  | 0, t => .error (.before .unfinishedString t)
  | _ + 1, [] => .error (.before .unfinishedString [])
  | fuel + 1, c :: rest =>
    if c = '"' then .ok ([], rest)
    else if c = '\\' then do
      let (e, rest) ← readEscape rest
      let (t, rest) ← readStringWithin fuel rest
      return (e :: t, rest)
    else if c.toNat < 0x20 then .error (.before .controlCharacter rest)
    else do
      let (t, rest) ← readStringWithin fuel rest
      return (c :: t, rest)

/-- The characters of a string, read behind its opening quote. -/
def readString (t : Text) : Except Fault (Text × Text) := readStringWithin (t.length + 1) t

/-! ## 3. Numbers -/

/-- The greatest significand. -/
def maxSignificand : Nat := pow2 64 - 1

/-- Digits taken into a significand as long as it stays within 64 bits, and the
digits that were left over. -/
def takeSignificand (significand : Nat) : Text → Nat × Text
  | [] => (significand, [])
  | d :: digits =>
    let next := significand * 10 + Text.digitValue d
    if maxSignificand < next then (significand, d :: digits) else takeSignificand next digits

/-- A power of ten, as the nearest double. -/
def powerOfTen? (exponent : Nat) : Option Binary64 := Binary64.ofNat? (pow10 exponent)

/-- Dividing by 1e308 until the exponent is in the range of the doubles. Three
times are enough to bring every significand to zero. -/
def scaleDown? : (fuel : Nat) → Binary64 → (exponent : Nat) → Option Binary64
  | 0, x, _ => some x
  | fuel + 1, x, exponent =>
    if exponent ≤ 308 then do (x.div? (← powerOfTen? exponent))
    else if x.isZero then some x
    else do scaleDown? fuel (← x.div? (← powerOfTen? 308)) (exponent - 308)

/-- The double of a significand and a decimal exponent, if it is not too large. -/
def scaleSignificand? (significand : Nat) (exponent : Int) : Option Binary64 := do
  let x ← Binary64.ofNat? significand
  if exponent < 0 then scaleDown? 4 x exponent.natAbs
  else if exponent ≤ 308 then x.mul? (← powerOfTen? exponent.toNat)
  else if x.isZero then some x
  else none

/-- The double of the parts of a number, ending in front of `rest`. -/
def doubleOf (negative : Bool) (significand : Nat) (exponent : Int) (rest : Text) :
    Except Fault (JsonNumber × Text) :=
  match scaleSignificand? significand exponent with
  | some x => .ok (.double (x.negateIf negative), rest)
  | none => .error (.before .numberOutOfRange rest)

/-- The largest exponent that is read; beyond it a number is zero or out of range. -/
def maxExponent : Nat := pow2 31 - 1

/-- The digits of an exponent, with its value so far; `none` for the value when it
passes the largest one, and then the rest begins behind the digit that did it. -/
def readExponentDigits (value : Nat) : Text → Option Nat × Text
  | [] => (some value, [])
  | c :: rest =>
    if c.isDigit then
      let next := value * 10 + Text.digitValue c
      if maxExponent < next then (none, rest) else readExponentDigits next rest
    else (some value, c :: rest)

/-- A number from its exponent on, read behind the `e`. -/
def readExponent (negative : Bool) (significand : Nat) (exponent : Int) (t : Text) :
    Except Fault (JsonNumber × Text) :=
  let (down, t) : Bool × Text :=
    match t with
    | '+' :: rest => (false, rest)
    | '-' :: rest => (true, rest)
    | rest => (false, rest)
  match t with
  | [] => .error (.before .unfinishedValue [])
  | c :: rest =>
    if c.isDigit then
      match readExponentDigits (Text.digitValue c) rest with
      | (some e, rest) =>
        doubleOf negative significand (if down then exponent - e else exponent + e) rest
      | (none, rest) =>
        if significand ≠ 0 ∧ !down then .error (.before .numberOutOfRange rest)
        else .ok (.double (Binary64.zero negative), rest.dropWhile Char.isDigit)
    else .error (.reading .invalidNumber (c :: rest))

/-- What may follow the digits of a number: an exponent, or its end. -/
def readExponentOrEnd (negative : Bool) (significand : Nat) (exponent : Int) (t : Text) :
    Except Fault (JsonNumber × Text) :=
  match t with
  | 'e' :: rest => readExponent negative significand exponent rest
  | 'E' :: rest => readExponent negative significand exponent rest
  | rest => doubleOf negative significand exponent rest

/-- A number from its fraction on, read behind the point. -/
def readFraction (negative : Bool) (significand : Nat) (exponent : Int) (t : Text) :
    Except Fault (JsonNumber × Text) :=
  let digits := t.takeWhile Char.isDigit
  let rest := t.dropWhile Char.isDigit
  if digits.isEmpty then
    match rest with
    | [] => .error (.before .unfinishedValue [])
    | _ :: _ => .error (.reading .invalidNumber rest)
  else
    let (significand, unused) := takeSignificand significand digits
    readExponentOrEnd negative significand (exponent - (digits.length - unused.length : Nat)) rest

/-- The integer of a significand, which is the double `-0.0` for a negative zero
and a double as well below -2^63. -/
def integerOf (negative : Bool) (significand : Nat) (rest : Text) :
    Except Fault (JsonNumber × Text) :=
  if negative ∧ (significand = 0 ∨ pow2 63 < significand) then doubleOf true significand 0 rest
  else .ok (.integer (if negative then -significand else significand), rest)

/-- A number from its first digit on; the sign was read before. -/
def readNumber (negative : Bool) (t : Text) : Except Fault (JsonNumber × Text) :=
  match t with
  | [] => .error (.before .unfinishedValue [])
  | c :: rest =>
    if c.isDigit then
      let digits := if c = '0' then [c] else t.takeWhile Char.isDigit
      let rest := if c = '0' then rest else t.dropWhile Char.isDigit
      if c = '0' ∧ (rest.head?.any Char.isDigit) then .error (.reading .invalidNumber rest)
      else
        let (significand, unused) := takeSignificand 0 digits
        match rest with
        | '.' :: fraction => readFraction negative significand unused.length fraction
        | 'e' :: _ | 'E' :: _ => readExponentOrEnd negative significand unused.length rest
        | _ =>
          if unused.isEmpty then integerOf negative significand rest
          else doubleOf negative significand unused.length rest
    else .error (.reading .invalidNumber (c :: rest))

/-! ## 4. Separators -/

/-- Where the next item of an array begins, or `none` in front of the closing
bracket. `first` says that no item was read yet. -/
def nextItem (first : Bool) (t : Text) : Except Fault (Option Text) :=
  match skipSpace t with
  | [] => .error (.before .unfinishedList [])
  | c :: rest =>
    if c = ']' then .ok none
    else if first then .ok (some (c :: rest))
    else if c = ',' then
      match skipSpace rest with
      | [] => .error (.before .unfinishedValue [])
      | c :: rest =>
        if c = ']' then .error (.reading .trailingComma (c :: rest)) else .ok (some (c :: rest))
    else .error (.reading .expectedListSeparator (c :: rest))

/-- The text behind the opening quote of the next member's name, or `none` in front
of the closing brace. -/
def nextName (first : Bool) (t : Text) : Except Fault (Option Text) :=
  match skipSpace t with
  | [] => .error (.before .unfinishedObject [])
  | c :: rest =>
    if c = '}' then .ok none
    else if first then
      if c = '"' then .ok (some rest) else .error (.reading .keyNotString (c :: rest))
    else if c = ',' then
      match skipSpace rest with
      | [] => .error (.before .unfinishedValue [])
      | c :: rest =>
        if c = '"' then .ok (some rest)
        else if c = '}' then .error (.reading .trailingComma (c :: rest))
        else .error (.reading .keyNotString (c :: rest))
    else .error (.reading .expectedObjectSeparator (c :: rest))

/-- The rest behind the colon of a member. -/
def readColon (t : Text) : Except Fault Text :=
  match skipSpace t with
  | [] => .error (.before .unfinishedObject [])
  | c :: rest => if c = ':' then .ok rest else .error (.reading .expectedColon (c :: rest))

/-- The rest behind the closing bracket of an array whose items were read. -/
def closeList (t : Text) : Except Fault Text :=
  match skipSpace t with
  | [] => .error (.before .unfinishedList [])
  | c :: rest =>
    if c = ']' then .ok rest
    else if c = ',' then
      match skipSpace rest with
      | ']' :: rest => .error (.reading .trailingComma (']' :: rest))
      | rest => .error (.reading .trailingCharacters rest)
    else .error (.reading .trailingCharacters (c :: rest))

/-- Where reading stands after an attempt to close an array: behind the bracket,
behind a comma, or where it was. -/
def afterListAttempt (t : Text) : Text :=
  match skipSpace t with
  | ']' :: rest => rest
  | ',' :: rest => skipSpace rest
  | rest => rest

/-- The rest behind the closing brace of an object whose members were read. -/
def closeObject (t : Text) : Except Fault Text :=
  match skipSpace t with
  | [] => .error (.before .unfinishedObject [])
  | c :: rest =>
    if c = '}' then .ok rest
    else if c = ',' then .error (.reading .trailingComma (c :: rest))
    else .error (.reading .trailingCharacters (c :: rest))

/-- Where reading stands after an attempt to close an object. -/
def afterObjectAttempt (t : Text) : Text :=
  match skipSpace t with
  | '}' :: rest => rest
  | rest => rest

/-- The end of the text: nothing but white space may follow a value. -/
def readEnd (t : Text) : Except Fault Unit :=
  match skipSpace t with
  | [] => .ok ()
  | c :: rest => .error (.reading .trailingCharacters (c :: rest))

end MarkupDesk.Json
