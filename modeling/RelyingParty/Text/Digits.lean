/-!
# Decimal digits

Numbers are written without leading zeros, or padded to a width with zeros, and read from runs of
ASCII digits. `readNatural?` and `readInteger?` read a whole text as one number.
-/

namespace RelyingParty.Text
set_option autoImplicit false

/-- The digit `d`, for `d < 10`. -/
def digitChar (d : Nat) : Char :=
  Char.ofNat (48 + d)

/-- The decimal digits of `n`, without leading zeros. -/
def digits (n : Nat) : List Char :=
  if n < 10 then [digitChar n] else digits (n / 10) ++ [digitChar (n % 10)]

/-- The number written by a run of digits. -/
def ofDigits (ds : List Char) : Nat :=
  ds.foldl (fun v c => 10 * v + (c.toNat - 48)) 0

/-- The digits of `n`, with zeros in front up to `width` characters. -/
def paddedDigits (width n : Nat) : List Char :=
  let ds := digits n
  List.replicate (width - ds.length) '0' ++ ds

/-- A whole number, with a minus sign when it is negative. -/
def integerChars : Int → List Char
  | .ofNat n => digits n
  | .negSucc n => '-' :: digits (n + 1)

/-- The decimal text of a natural number. -/
def decimal (n : Nat) : String :=
  String.ofList (digits n)

/-- The longest run of at most `limit` digits at the front, and what follows it. -/
def takeDigits : (limit : Nat) → List Char → List Char × List Char
  | 0, cs => ([], cs)
  | _ + 1, [] => ([], [])
  | limit + 1, c :: cs =>
    if c.isDigit then
      let run := takeDigits limit cs
      (c :: run.1, run.2)
    else ([], c :: cs)

/-- The digits at the front, and what follows them. -/
def spanDigits (cs : List Char) : List Char × List Char :=
  (cs.takeWhile Char.isDigit, cs.dropWhile Char.isDigit)

/-- The number that a text of one or more digits, and nothing else, writes. -/
def readDigits? (cs : List Char) : Option Nat :=
  if cs ≠ [] ∧ cs.all Char.isDigit then some (ofDigits cs) else none

/-- A natural number below `bound`: an optional plus sign and digits. -/
def readNatural? (bound : Nat) (s : String) : Option Nat :=
  let magnitude := match s.toList with
    | '+' :: ds => readDigits? ds
    | ds => readDigits? ds
  magnitude.filter (· < bound)

/-- A whole number in `[-bound, bound)`: an optional sign and digits. -/
def readInteger? (bound : Nat) (s : String) : Option Int :=
  let value : Option Int := match s.toList with
    | '-' :: ds => (readDigits? ds).map fun n => -(n : Int)
    | '+' :: ds => (readDigits? ds).map Int.ofNat
    | ds => (readDigits? ds).map Int.ofNat
  value.filter fun i => -(bound : Int) ≤ i ∧ i < bound

end RelyingParty.Text
