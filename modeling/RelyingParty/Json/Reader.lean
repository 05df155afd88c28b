import RelyingParty.Json.Basic
import RelyingParty.Json.Quoted
import RelyingParty.Text.Digits

/-!
# Reading documents

The reader takes the strict format: four blank characters between tokens, no leading zeros, no
trailing commas, nothing after the value. Numbers may have any size, but keep only those of their
leading digits that fit in 64 bits.
-/

namespace RelyingParty.Json
set_option autoImplicit false

/-- Whether a character may stand between tokens. -/
def isSpace (c : Char) : Bool :=
  c = ' ' || c = '\t' || c = '\n' || c = '\r'

/-- The characters after the leading space. -/
def skipSpace (cs : List Char) : List Char :=
  cs.dropWhile isSpace

/-- The digits after a decimal point, when there is one, and what follows them. -/
def fractionDigits? : List Char → Option (List Char × List Char)
  | '.' :: cs =>
    let (ds, rest) := Text.spanDigits cs
    if ds = [] then none else some (ds, rest)
  | cs => some ([], cs)

/-- The exponent, when there is one, and what follows it. -/
def exponent? (cs : List Char) : Option (Option Int × List Char) :=
  match cs with
  | c :: cs' =>
    if c = 'e' ∨ c = 'E' then
      let (negative, cs'') := match cs' with
        | '-' :: r => (true, r)
        | '+' :: r => (false, r)
        | r => (false, r)
      let (ds, rest) := Text.spanDigits cs''
      if ds = [] then none
      else
        let n : Int := Text.ofDigits ds
        some (some (if negative then -n else n), rest)
    else some (none, cs)
  | [] => some (none, [])

/-- The number `n` with digits written behind it while it stays below `2 ^ 64`, and the digits left. -/
def extendNumber (n : Nat) : List Char → Nat × List Char
  | [] => (n, [])
  | c :: cs =>
    let longer := 10 * n + (c.toNat - 48)
    if longer < Nat.pow 2 64 then extendNumber longer cs else (n, c :: cs)

/-- Whether a number of 64 bits, without a sign or with a minus sign, counts as a whole number. A
negative zero does not. -/
def isWhole (negative : Bool) (n : Nat) : Bool :=
  !negative || (decide (0 < n) && decide (n ≤ Nat.pow 2 63))

/-- The number with the given sign, whole digits, decimals and exponent. Whole digits that do not fit
stand for zeros, and decimals that do not fit are dropped. -/
def numeral (negative : Bool) (whole decimals : List Char) (exponent : Option Int) : Json :=
  let (head, wholeLeft) := extendNumber 0 whole
  let (n, decimalsLeft) := extendNumber head decimals
  let m : Int := if negative then -n else n
  if decimals = [] ∧ exponent = none ∧ wholeLeft = [] ∧ isWhole negative n then .int m
  else
    let kept : Int := decimals.length - decimalsLeft.length
    .decimal m (exponent.getD 0 + wholeLeft.length - kept)

/-- A number without its sign, and what follows it. -/
def readMagnitude (negative : Bool) (cs : List Char) : Option (Json × List Char) := do
  let (whole, rest) := Text.spanDigits cs
  if whole = [] then none
  else if whole.head? = some '0' ∧ whole.length > 1 then none
  else do
    let (decimals, rest) ← fractionDigits? rest
    let (exponent, rest) ← exponent? rest
    return (numeral negative whole decimals exponent, rest)

/-- A number and what follows it. -/
def readNumber : List Char → Option (Json × List Char)
  | '-' :: cs => readMagnitude true cs
  | cs => readMagnitude false cs

mutual

/-- A value and what follows it; `fuel` bounds the nesting of calls. -/
def readValue : (fuel : Nat) → List Char → Option (Json × List Char)
  | 0, _ => none
  | fuel + 1, cs =>
    match skipSpace cs with
    | 'n' :: 'u' :: 'l' :: 'l' :: rest => some (.null, rest)
    | 't' :: 'r' :: 'u' :: 'e' :: rest => some (.bool true, rest)
    | 'f' :: 'a' :: 'l' :: 's' :: 'e' :: rest => some (.bool false, rest)
    | '"' :: rest => (readQuoted rest).map fun (s, rest) => (s.elim .garbled .string, rest)
    | '[' :: rest =>
      match skipSpace rest with
      | ']' :: rest => some (.array [], rest)
      | _ => (readElements fuel rest).map fun (elements, rest) => (.array elements, rest)
    | '\x7b' :: rest =>
      match skipSpace rest with
      | '\x7d' :: rest => some (.object [], rest)
      | _ => (readMembers fuel rest).map fun (members, rest) => (members.elim .garbled .object, rest)
    | rest => readNumber rest

/-- One or more elements up to the closing bracket, and what follows it. -/
def readElements : (fuel : Nat) → List Char → Option (List Json × List Char)
  | 0, _ => none
  | fuel + 1, cs =>
    match readValue fuel cs with
    | none => none
    | some (element, rest) =>
      match skipSpace rest with
      | ',' :: rest => (readElements fuel rest).map fun (elements, rest) => (element :: elements, rest)
      | ']' :: rest => some ([element], rest)
      | _ => none

/-- One or more members up to the closing brace, and what follows it. There are no members to speak
of when some name forms no text. -/
def readMembers : (fuel : Nat) → List Char → Option (Option (List (String × Json)) × List Char)
  | 0, _ => none
  | fuel + 1, cs =>
    match skipSpace cs with
    | '"' :: rest =>
      match readQuoted rest with
      | none => none
      | some (name, rest) =>
        match skipSpace rest with
        | ':' :: rest =>
          match readValue fuel rest with
          | none => none
          | some (value, rest) =>
            let member := name.map fun name => (name, value)
            match skipSpace rest with
            | ',' :: rest =>
              (readMembers fuel rest).map fun (members, rest) =>
                (member.bind fun member => members.map (member :: ·), rest)
            | '\x7d' :: rest => some (member.map ([·]), rest)
            | _ => none
        | _ => none
    | _ => none

end

/-- The document that a list of characters writes. -/
def ofChars? (cs : List Char) : Option Json :=
  match readValue (2 * cs.length + 2) cs with
  | some (document, rest) => if skipSpace rest = [] then some document else none
  | none => none

/-- The document that a text writes. -/
def ofText? (s : String) : Option Json :=
  ofChars? s.toList

end RelyingParty.Json
