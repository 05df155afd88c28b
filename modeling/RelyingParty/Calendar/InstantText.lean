import RelyingParty.Calendar.DateText
import RelyingParty.Calendar.Instant

/-!
# Instants as text

Instants are written in UTC as `YYYY-MM-DDTHH:MM:SS`, with three, six or nine decimals where the
nanoseconds need them, and a leap second as second 60. Reading takes any offset from UTC under a day
and blanks around every part.
-/

namespace RelyingParty.Calendar
set_option autoImplicit false

/-- The decimals of a number of nanoseconds: the fewest of none, three, six and nine that are exact. -/
def fractionChars (nano : Nat) : List Char :=
  if nano = 0 then []
  else if nano % 1000000 = 0 then '.' :: Text.paddedDigits 3 (nano / 1000000)
  else if nano % 1000 = 0 then '.' :: Text.paddedDigits 6 (nano / 1000)
  else '.' :: Text.paddedDigits 9 nano

/-- The digits after a decimal point as nanoseconds; those after the ninth are dropped. -/
def scanFraction : List Char → Option (Nat × List Char)
  | '.' :: cs =>
    let (ds, rest) := Text.spanDigits cs
    let kept := ds.take 9
    if ds = [] then none else some (Text.ofDigits kept * Nat.pow 10 (9 - kept.length), rest)
  | cs => some (0, cs)

/-- What follows the letter between a date and a time. -/
def scanTimeMark : List Char → Option (List Char)
  | c :: rest => if c = 'T' ∨ c = 't' ∨ c = ' ' then some rest else none
  | [] => none

/-- Two digits and what follows them. -/
def scanPair : List Char → Option (Nat × List Char)
  | a :: b :: rest =>
    if a.isDigit ∧ b.isDigit then some (Text.ofDigits [a, b], rest) else none
  | _ => none

/-- The hours and minutes of an offset as minutes. -/
def scanOffsetTime (cs : List Char) : Option (Nat × List Char) := do
  let (hours, rest) ← scanPair cs
  let (minutes, rest) ← scanPair (rest.dropWhile fun c => c = ':' ∨ Text.isBlank c)
  if hours < 24 ∧ minutes < 60 then some (60 * hours + minutes, rest) else none

/-- An offset from UTC in minutes, and what follows it. -/
def scanOffset : List Char → Option (Int × List Char)
  | 'Z' :: rest => some (0, rest)
  | 'z' :: rest => some (0, rest)
  | '+' :: rest => (scanOffsetTime rest).map fun (m, rest) => ((m : Int), rest)
  | '-' :: rest => (scanOffsetTime rest).map fun (m, rest) => (-(m : Int), rest)
  | '\u2212' :: rest => (scanOffsetTime rest).map fun (m, rest) => (-(m : Int), rest)
  | u :: t :: c :: rest =>
    if [u, t, c].map Char.toLower = ['u', 't', 'c'] then some (0, rest) else none
  | _ => none

/-- A local time of day: hour, minute, second up to 60, and nanoseconds. -/
structure LocalTime where
  hour : Nat
  minute : Nat
  second : Nat
  nano : Nat

/-- A time of day and what follows it. -/
def scanLocalTime (cs : List Char) : Option (LocalTime × List Char) := do
  let (hour, rest) ← scanNumber 2 cs
  let rest ← scanChar ':' (Text.skipBlanks rest)
  let (minute, rest) ← scanNumber 2 rest
  let rest ← scanChar ':' (Text.skipBlanks rest)
  let (second, rest) ← scanNumber 2 rest
  let (nano, rest) ← scanFraction rest
  return (⟨hour, minute, second, nano⟩, rest)

namespace Instant

/-- The instant of a local date and time at an offset of `offset` minutes, when all of it is
supported: both the local date and the date in UTC. -/
def ofLocal? (date : Date) (time : LocalTime) (offset : Int) : Option Instant :=
  if h : time.hour < 24 ∧ time.minute < 60 ∧ time.second ≤ 60 ∧ time.nano < 1000000000 then
    let minute : Int := 60 * time.hour + time.minute - offset
    (Date.ofDay? (date.day + minute / 1440)).map fun date =>
      if hl : time.second = 60 then
        { date
          secondOfDay := 60 * (minute % 1440).toNat + 59
          nano := time.nano + 1000000000
          second_lt := by omega
          nano_lt := by omega }
      else
        { date
          secondOfDay := 60 * (minute % 1440).toNat + time.second
          nano := time.nano
          second_lt := by omega
          nano_lt := by omega }
  else none

/-- The instant in a text. -/
def ofText? (s : String) : Option Instant := do
  let (civil, rest) ← scanCivil Text.skipBlanks s.toList
  let rest ← scanTimeMark rest
  let (time, rest) ← scanLocalTime rest
  let (offset, rest) ← scanOffset (Text.skipBlanks rest)
  let date ← Date.ofCivil? civil
  if Text.skipBlanks rest = [] then ofLocal? date time offset else none

/-- The characters of an instant without its offset. -/
def localChars (t : Instant) : List Char :=
  let clock := t.secondOfDay
  let extra := t.nano / 1000000000
  t.date.chars ++ 'T' :: Text.paddedDigits 2 (clock / 3600)
    ++ ':' :: Text.paddedDigits 2 (clock / 60 % 60)
    ++ ':' :: Text.paddedDigits 2 (clock % 60 + extra)
    ++ fractionChars (t.nano % 1000000000)

/-- The text of an instant in documents. -/
def text (t : Instant) : String :=
  String.ofList (t.localChars ++ ['Z'])

/-- The text of an instant in messages. -/
def messageText (t : Instant) : String :=
  String.ofList (t.localChars ++ ['+', '0', '0', ':', '0', '0'])

end Instant
end RelyingParty.Calendar
