/-!
# Dates of the Gregorian calendar

A date is a day number, counted from 1970-01-01 in the proleptic Gregorian calendar. The supported
dates run from the first day of the year -262143 to the last of the year 262142. Years are taken to
start in March, so that the leap day is the last of its year, and 400 such years are one era.
-/

namespace RelyingParty.Calendar
set_option autoImplicit false

/-- The day number of the first supported date. -/
def firstDay : Int := -96465292

/-- The day number of the last supported date. -/
def lastDay : Int := 95026236

/-- The days of an era, 400 years. -/
def eraDays : Int := 146097

/-- The day number of the first day of era zero, 0000-03-01. -/
def eraStart : Int := -719468

/-- A supported date. -/
structure Date where
  /-- The days since 1970-01-01. -/
  day : Int
  first_le : firstDay ≤ day
  le_last : day ≤ lastDay
deriving DecidableEq

/-- A year, a month from 1 and a day of the month from 1. -/
structure Civil where
  year : Int
  month : Nat
  day : Nat
deriving DecidableEq

/-- Whether a year has a leap day. -/
def isLeapYear (year : Int) : Bool :=
  year % 4 == 0 && (year % 100 != 0 || year % 400 == 0)

/-- The days of a month. -/
def daysInMonth (year : Int) : (month : Nat) → Nat
  | 2 => if isLeapYear year then 29 else 28
  | 4 | 6 | 9 | 11 => 30
  | _ => 31

/-- Whether a date exists in the calendar. -/
def Civil.Exists (c : Civil) : Prop :=
  1 ≤ c.month ∧ c.month ≤ 12 ∧ 1 ≤ c.day ∧ c.day ≤ daysInMonth c.year c.month

instance (c : Civil) : Decidable c.Exists :=
  inferInstanceAs (Decidable (_ ∧ _ ∧ _ ∧ _))

/-- The days from the first of March to the first of a month, by the months passed since March. -/
def daysBeforeMonth (monthsPassed : Int) : Int :=
  (153 * monthsPassed + 2) / 5

/-- The number of a civil date. -/
def Civil.dayNumber (c : Civil) : Int :=
  let year := if c.month ≤ 2 then c.year - 1 else c.year
  let monthsPassed : Int := if c.month ≤ 2 then c.month + 9 else c.month - 3
  let yearOfEra := year % 400
  eraStart + year / 400 * eraDays + (yearOfEra * 365 + yearOfEra / 4 - yearOfEra / 100)
    + daysBeforeMonth monthsPassed + (c.day - 1)

/-- The civil date of a day number, by whole eras, centuries, four-year cycles and years. -/
def civilOfDay (day : Int) : Civil :=
  let era := (day - eraStart) / eraDays
  let dayOfEra := (day - eraStart) % eraDays
  let century := min (dayOfEra / 36524) 3
  let dayOfCentury := dayOfEra - 36524 * century
  let cycle := dayOfCentury / 1461
  let dayOfCycle := dayOfCentury % 1461
  let yearOfCycle := min (dayOfCycle / 365) 3
  let dayOfYear := dayOfCycle - 365 * yearOfCycle
  let monthsPassed := (5 * dayOfYear + 2) / 153
  let dayOfMonth := dayOfYear - daysBeforeMonth monthsPassed + 1
  let month := if monthsPassed < 10 then monthsPassed + 3 else monthsPassed - 9
  let year := 400 * era + 100 * century + 4 * cycle + yearOfCycle
  ⟨if month ≤ 2 then year + 1 else year, month.toNat, dayOfMonth.toNat⟩

namespace Date

/-- The date with a day number, when it is supported. -/
def ofDay? (day : Int) : Option Date :=
  if h : firstDay ≤ day ∧ day ≤ lastDay then some ⟨day, h.1, h.2⟩ else none

/-- The date of a year, month and day, when it exists and is supported. -/
def ofCivil? (c : Civil) : Option Date :=
  if c.Exists then ofDay? c.dayNumber else none

/-- The year, month and day of a date. -/
def civil (d : Date) : Civil :=
  civilOfDay d.day

end Date
end RelyingParty.Calendar
