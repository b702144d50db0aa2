import Durak.Calendar.Instant
import Durak.Number.Numeral

/-!
# Timestamps

Instants are written in the profile of RFC 3339: date, `T`, time of day, an optional fraction of a
second, and the offset, where a zero offset is `Z`.  The profile has four digits for the year, so
an instant in a year before zero cannot be written, `Instant.timestamp?`.

Reading is more lenient than writing: any single ASCII character may stand between date and time,
`z` stands for `Z`, and digits of the fraction after the ninth are dropped.  A sixtieth second is
read only where one can be inserted, in the last minute of a month of universal time, and it reads
as the last nanosecond before it.
-/

set_option autoImplicit false

namespace Durak

namespace Instant

/-! ## Writing -/

/-- The fraction of a second: a point and its digits without the noughts at the end. -/
def fractionText (nanoseconds : Nat) : List Char :=
  if nanoseconds = 0 then []
  else '.' :: ((paddedDigits 9 nanoseconds).reverse.dropWhile (· == '0')).reverse

/-- The offset at the end of a timestamp. -/
def offsetText (offset : Offset) : List Char :=
  if offset.minutes = 0 then ['Z']
  else
    let size := offset.minutes.natAbs
    (if offset.minutes < 0 then '-' else '+') :: paddedDigits 2 (size / 60) ++
      ':' :: paddedDigits 2 (size % 60)

/-- The timestamp of an instant; there is none before the year zero or after the year 9999. -/
def timestamp? (instant : Instant) : Option String :=
  let date := instant.date
  if 0 ≤ date.year ∧ date.year ≤ latestYear then
    let nanos := instant.nanosOfDay
    let seconds := nanos / secondNanos.toNat
    some <| String.ofList <|
      paddedDigits 4 date.year.toNat ++ '-' :: paddedDigits 2 date.month ++
      '-' :: paddedDigits 2 date.day ++ 'T' :: paddedDigits 2 (seconds / 3600) ++
      ':' :: paddedDigits 2 (seconds / 60 % 60) ++ ':' :: paddedDigits 2 (seconds % 60) ++
      fractionText (nanos % secondNanos.toNat) ++ offsetText instant.offset
  else none

/-- Why an instant outside the years nought to 9999 cannot be written. -/
def unwritable : String :=
  "The year component cannot be formatted into the requested format."

/-! ## Reading -/

/-- Takes a number of exactly so many digits. -/
def takeNumber? : Nat → Nat → List Char → Option (Nat × List Char)
  | 0, number, rest => some (number, rest)
  | _ + 1, _, [] => none
  | count + 1, number, character :: rest => do
    let digit ← digit? character
    takeNumber? count (number * 10 + digit.val) rest

/-- Takes one given character. -/
def takeMark? (mark : Char) : List Char → Option (List Char)
  | [] => none
  | character :: rest => if character = mark then some rest else none

/-- Takes the character between date and time, which may be any of ASCII. -/
def takeSeparator? : List Char → Option (List Char)
  | [] => none
  | character :: rest => if character.toNat < 128 then some rest else none

/-- Takes the digits of a fraction, each counting a tenth of the one before it. -/
def takeFraction (weight nanoseconds : Nat) : List Char → Nat × List Char
  | [] => (nanoseconds, [])
  | character :: rest =>
    match digit? character with
    | some digit => takeFraction (weight / 10) (nanoseconds + digit.val * weight) rest
    | none => (nanoseconds, character :: rest)

/-- Takes an optional fraction of a second, as nanoseconds. -/
def takeSubsecond? : List Char → Option (Nat × List Char)
  | '.' :: first :: rest => do
    let _ ← digit? first
    some (takeFraction 100000000 0 (first :: rest))
  | ['.'] => none
  | rest => some (0, rest)

/-- Reads the offset, which ends the timestamp. -/
def readOffset? (text : List Char) : Option Offset :=
  match text with
  | ['Z'] => some Offset.zero
  | ['z'] => some Offset.zero
  | sign :: rest => do
    let (hours, rest) ← takeNumber? 2 0 rest
    let rest ← takeMark? ':' rest
    let (minutes, rest) ← takeNumber? 2 0 rest
    if ok : (sign = '+' ∨ sign = '-') ∧ hours ≤ 23 ∧ minutes ≤ 59 ∧ rest = [] then
      let size : Int := (hours * 60 + minutes : Nat)
      if sign = '-' then some ⟨-size, by omega, by omega⟩ else some ⟨size, by omega, by omega⟩
    else none
  | [] => none

/-- Whether an instant is the last nanosecond of a month of universal time. -/
def endsMonth (instant : Instant) : Bool :=
  let universal : Instant := ⟨instant.absolute, Offset.zero⟩
  universal.nanosOfDay == (dayNanos - 1).toNat && universal.date.day == universal.date.monthLength

/-- Reads the characters of a timestamp. -/
def readTimestamp? (text : List Char) : Option Instant := do
  let (year, text) ← takeNumber? 4 0 text
  let text ← takeMark? '-' text
  let (month, text) ← takeNumber? 2 0 text
  let text ← takeMark? '-' text
  let (day, text) ← takeNumber? 2 0 text
  let text ← takeSeparator? text
  let (hour, text) ← takeNumber? 2 0 text
  let text ← takeMark? ':' text
  let (minute, text) ← takeNumber? 2 0 text
  let text ← takeMark? ':' text
  let (second, text) ← takeNumber? 2 0 text
  let (nanoseconds, text) ← takeSubsecond? text
  let offset ← readOffset? text
  let date : Date := ⟨year, month, day⟩
  if date.isValid && hour ≤ 23 && minute ≤ 59 && second ≤ 60 then
    let minutes : Int := date.dayNumber * 1440 + (hour * 60 + minute : Nat)
    if second = 60 then
      let instant : Instant := ⟨(minutes * 60 + 60) * secondNanos - 1, offset⟩
      if instant.endsMonth then some instant else none
    else some ⟨(minutes * 60 + second) * secondNanos + nanoseconds, offset⟩
  else none

/-- The instant a timestamp names. -/
def ofTimestamp? (text : String) : Option Instant := readTimestamp? text.toList

end Instant

end Durak
