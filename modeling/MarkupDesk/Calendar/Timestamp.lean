/-
`Calendar/Timestamp.lean` -- points in time, and their texts.

A timestamp is a point in time in UTC. It is written as `2024-03-01T12:30:00Z`,
with a fraction of 3, 6 or 9 digits where one is needed. Reading is more lenient:
fields may have fewer digits, blanks may stand between them, and another offset than
`Z` is taken into account; but the date must exist and the offset must be given.
A sixtieth second is kept apart from the first second of the next minute.
-/
import MarkupDesk.Calendar.Date
import MarkupDesk.Number.Power
import MarkupDesk.Text.Blank
import MarkupDesk.Text.Digits

set_option autoImplicit false

namespace MarkupDesk.Calendar

/-- A point in time: the day, the second of the day, and the nanoseconds within it. A
leap second is the second before it with 10^9 nanoseconds or more. -/
structure Timestamp where
  day : Int
  second : Nat
  nanos : Nat
  deriving DecidableEq, Repr

namespace Timestamp

instance : Inhabited Timestamp := ⟨⟨0, 0, 0⟩⟩

/-! ## 1. Parts -/

/-- The seconds of a day. -/
def secondsPerDay : Nat := 86400

/-- The nanoseconds of a second. -/
def nanosPerSecond : Nat := 1000000000

/-- The date. -/
def date (t : Timestamp) : Date := Date.ofDay t.day

/-- The hour of the day. -/
def hour (t : Timestamp) : Nat := t.second / 3600

/-- The minute of the hour. -/
def minute (t : Timestamp) : Nat := t.second / 60 % 60

/-- The milliseconds since the beginning of 1970. -/
def milliseconds (t : Timestamp) : Int :=
  (t.day * (secondsPerDay : Int) + (t.second : Int)) * 1000 + (t.nanos / 1000000 : Nat)

/-! ## 2. Writing -/

/-- The year in four digits; one that does not fit has a sign and at least four digits. -/
def yearText (year : Int) : Text :=
  if 0 ≤ year ∧ year ≤ 9999 then Text.ofNatPadded 4 year.toNat
  else (if year < 0 then '-' else '+') :: Text.ofNatPadded 4 year.natAbs

/-- The date as `2024-03-01`. -/
def dateText (t : Timestamp) : Text :=
  yearText t.date.year ++ '-' :: Text.ofNatPadded 2 t.date.month ++ '-'
    :: Text.ofNatPadded 2 t.date.day

/-- The hour and the minute as `09:05`. -/
def hourMinuteText (t : Timestamp) : Text :=
  Text.ofNatPadded 2 t.hour ++ ':' :: Text.ofNatPadded 2 t.minute

/-- The fraction of the second, in the fewest of 0, 3, 6 and 9 digits. -/
def fractionText (nanos : Nat) : Text :=
  if nanos = 0 then []
  else if nanos % 1000000 = 0 then '.' :: Text.ofNatPadded 3 (nanos / 1000000)
  else if nanos % 1000 = 0 then '.' :: Text.ofNatPadded 6 (nanos / 1000)
  else '.' :: Text.ofNatPadded 9 nanos

/-- The timestamp as `2024-03-01T12:30:00Z`. -/
def toText (t : Timestamp) : Text :=
  t.dateText ++ 'T' :: t.hourMinuteText ++ ':'
    :: Text.ofNatPadded 2 (t.second % 60 + t.nanos / nanosPerSecond)
    ++ fractionText (t.nanos % nanosPerSecond) ++ ['Z']

/-- The timestamp as `2024-03-01 12:30`. -/
def minuteText (t : Timestamp) : Text := t.dateText ++ ' ' :: t.hourMinuteText

/-- The time of day as `12:30 PM`. -/
def clockText (t : Timestamp) : Text :=
  let hour := if t.hour % 12 = 0 then 12 else t.hour % 12
  Text.ofNat hour ++ ':' :: Text.ofNatPadded 2 t.minute
    ++ (if t.hour < 12 then " AM" else " PM" : Text)

/-! ## 3. Reading -/

/-- A reader of a part: its value and the rest. -/
abbrev Part (α : Type) := Text → Option (α × Text)

/-- The first digits, at least one and at most `limit`. -/
def readDigits (limit : Nat) : Part Text := fun t =>
  let digits := (t.takeWhile Char.isDigit).take limit
  if digits.isEmpty then none else some (digits, t.drop digits.length)

/-- A number of at most `limit` digits, not above `bound`, behind blanks. -/
def readField (limit bound : Nat) : Part Nat := fun t => do
  let (digits, rest) ← readDigits limit (Text.trimStart t)
  let value := Text.digitsValue digits
  if value ≤ bound then some (value, rest) else none

/-- The given character, behind blanks. -/
def readMark (mark : Char) (t : Text) : Option Text :=
  match Text.trimStart t with
  | c :: rest => if c = mark then some rest else none
  | [] => none

/-- The greatest and the least year. -/
def maxYear : Nat := 262142

/-- The least year, without its sign. -/
def minYear : Nat := 262143

/-- The year: with a sign of any number of digits, without one of at most four. -/
def readYear : Part Int := fun t =>
  match Text.trimStart t with
  | '-' :: t => do
    let (digits, rest) ← readDigits t.length t
    let value := Text.digitsValue digits
    if value ≤ minYear then some (-(value : Int), rest) else none
  | '+' :: t => do
    let (digits, rest) ← readDigits t.length t
    let value := Text.digitsValue digits
    if value ≤ maxYear then some ((value : Int), rest) else none
  | t => do
    let (digits, rest) ← readDigits 4 t
    some ((Text.digitsValue digits : Int), rest)

/-- A date that exists. -/
def readDate : Part Date := fun t => do
  let (year, t) ← readYear t
  let (month, t) ← readField 2 12 (← readMark '-' t)
  let (day, t) ← readField 2 31 (← readMark '-' t)
  let date : Date := ⟨year, month, day⟩
  if date.isValid then some (date, t) else none

/-- The nanoseconds of a fraction. Digits behind the ninth are left out. -/
def readFraction : Part Nat := fun t =>
  match t with
  | '.' :: t => do
    let (digits, rest) ← readDigits 9 t
    some (Text.digitsValue digits * Number.pow10 (9 - digits.length), rest.dropWhile Char.isDigit)
  | t => some (0, t)

/-- The seconds between an offset and UTC, from the two digits of the hour on. -/
def readOffsetDigits (t : Text) : Option (Nat × Text) :=
  match t with
  | h1 :: h2 :: t =>
    match t.dropWhile fun c => c == ':' || Text.isBlank c with
    | m1 :: m2 :: rest =>
      let seconds := Text.digitsValue [h1, h2] * 3600 + Text.digitsValue [m1, m2] * 60
      if [h1, h2, m1, m2].all Char.isDigit ∧ m1.toNat < '6'.toNat ∧ seconds < secondsPerDay then
        some (seconds, rest)
      else none
    | _ => none
  | _ => none

/-- The letters of the name of the offset zero. -/
def isZeroOffsetName (t : Text) : Bool := t.map Char.toUpper == ['U', 'T', 'C']

/-- The offset from UTC in seconds. -/
def readOffset : Part Int := fun t =>
  if isZeroOffsetName (t.take 3) then some (0, t.drop 3)
  else
    match t with
    | [] => none
    | c :: rest =>
      if c = 'Z' ∨ c = 'z' then some (0, rest)
      else if c = '+' then do
        let (seconds, rest) ← readOffsetDigits rest
        some ((seconds : Int), rest)
      else if c = '-' ∨ c = '\u2212' then do
        let (seconds, rest) ← readOffsetDigits rest
        some (-(seconds : Int), rest)
      else none

/-- The timestamp of a date, a time of day and its offset from UTC. -/
def ofParts (date : Date) (hour minute second nanos : Nat) (offset : Int) : Timestamp :=
  let leap := if second = 60 then 1 else 0
  let seconds : Int := (hour * 3600 + minute * 60 + (second - leap) : Nat) - offset
  { day := date.toDay + seconds / (secondsPerDay : Int)
    second := (seconds % (secondsPerDay : Int)).toNat
    nanos := nanos + leap * nanosPerSecond }

/-- Is the year of the timestamp one that can be written down? -/
def inRange (t : Timestamp) : Bool :=
  -(minYear : Int) ≤ t.date.year && t.date.year ≤ (maxYear : Int)

/-- The timestamp that a text is. -/
def ofText? (t : Text) : Option Timestamp := do
  let (date, t) ← readDate t
  let t ←
    match t with
    | c :: rest => if c = 'T' ∨ c = 't' ∨ c = ' ' then some rest else none
    | [] => none
  let (hour, t) ← readField 2 23 t
  let (minute, t) ← readField 2 59 (← readMark ':' t)
  let (second, t) ← readField 2 60 (← readMark ':' t)
  let (nanos, t) ← readFraction t
  let (offset, t) ← readOffset (Text.trimStart t)
  let time := ofParts date hour minute second nanos offset
  if (Text.trimStart t).isEmpty ∧ time.inRange then some time else none

end Timestamp

end MarkupDesk.Calendar
