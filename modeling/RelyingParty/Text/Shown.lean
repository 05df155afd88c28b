import RelyingParty.Text.Unprintable

/-!
# Text shown in diagnostics

A text is shown between quotes. Quotes, backslashes and the common control characters get a short
escape, other characters that cannot be shown their code point.
-/

namespace RelyingParty.Text
set_option autoImplicit false

/-- Whether a character is shown as it is. -/
def isPrintable (c : Char) : Bool :=
  unprintableRanges.all fun r => decide (c.toNat < r.1) || decide (r.2 < c.toNat)

/-- The hexadecimal digits of a number, without leading zeros. -/
def hexDigits (n : Nat) : List Char :=
  Nat.toDigits 16 n

/-- The way a character is shown between quotes. -/
def shownChar (c : Char) : List Char :=
  if c = '\x00' then ['\\', '0']
  else if c = '\t' then ['\\', 't']
  else if c = '\n' then ['\\', 'n']
  else if c = '\r' then ['\\', 'r']
  else if c = '"' then ['\\', '"']
  else if c = '\\' then ['\\', '\\']
  else if isPrintable c then [c]
  else ['\\', 'u', '\x7b'] ++ hexDigits c.toNat ++ ['\x7d']

/-- A text as it is shown. -/
def shown (s : String) : String :=
  String.ofList ('"' :: s.toList.flatMap shownChar ++ ['"'])

end RelyingParty.Text
