import RelyingParty.Calendar.Date
import RelyingParty.Text.Blank
import RelyingParty.Text.Digits

/-!
# Dates as text

Dates are written `YYYY-MM-DD`, with a sign before years outside 0 to 9999. Reading is more
generous: a month or day may have one digit, a year without a sign up to four and with a sign any
number, and blanks may stand before each number. The model's own dates also allow them elsewhere.
-/

namespace RelyingParty.Calendar
set_option autoImplicit false

/-- A number of one to `limit` digits after optional blanks, and what follows it. -/
def scanNumber (limit : Nat) (cs : List Char) : Option (Nat × List Char) :=
  let (ds, rest) := Text.takeDigits limit (Text.skipBlanks cs)
  if ds = [] then none else some (Text.ofDigits ds, rest)

/-- The digits of a signed year, and what follows them. -/
def scanSigned (sign : Int) (cs : List Char) : Option (Int × List Char) :=
  let (ds, rest) := Text.spanDigits cs
  if ds = [] then none else some (sign * Text.ofDigits ds, rest)

/-- A year after optional blanks, and what follows it. -/
def scanYear (cs : List Char) : Option (Int × List Char) :=
  match Text.skipBlanks cs with
  | '-' :: rest => scanSigned (-1) rest
  | '+' :: rest => scanSigned 1 rest
  | rest => (scanNumber 4 rest).map fun (n, rest) => ((n : Int), rest)

/-- What follows a given character. -/
def scanChar (c : Char) : List Char → Option (List Char)
  | d :: rest => if d = c then some rest else none
  | [] => none

/-- A year, month and day with dashes between them, each part after `skip`, and what follows them. -/
def scanCivil (skip : List Char → List Char) (cs : List Char) : Option (Civil × List Char) := do
  let (year, rest) ← scanYear cs
  let rest ← scanChar '-' (skip rest)
  let (month, rest) ← scanNumber 2 rest
  let rest ← scanChar '-' (skip rest)
  let (day, rest) ← scanNumber 2 rest
  return (⟨year, month, day⟩, rest)

/-- The characters of a year. -/
def yearChars (year : Int) : List Char :=
  if 0 ≤ year ∧ year ≤ 9999 then Text.paddedDigits 4 year.toNat
  else (if year < 0 then '-' else '+') :: Text.paddedDigits 4 year.natAbs

/-- The characters of a civil date. -/
def Civil.chars (c : Civil) : List Char :=
  yearChars c.year ++ '-' :: Text.paddedDigits 2 c.month ++ '-' :: Text.paddedDigits 2 c.day

namespace Date

/-- The characters of a date. -/
def chars (d : Date) : List Char :=
  d.civil.chars

/-- The text of a date. -/
def text (d : Date) : String :=
  String.ofList d.chars

/-- The date in a text, with blanks allowed around every part. -/
def ofText? (s : String) : Option Date := do
  let (civil, rest) ← scanCivil Text.skipBlanks s.toList
  if Text.skipBlanks rest = [] then ofCivil? civil else none

/-- The date in a text, with blanks allowed only before the numbers. -/
def ofCompactText? (s : String) : Option Date := do
  let (civil, rest) ← scanCivil id s.toList
  if rest = [] then ofCivil? civil else none

end Date
end RelyingParty.Calendar
