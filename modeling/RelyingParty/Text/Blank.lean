/-!
# White space

The blank characters are those of the Unicode property `White_Space`. Identifiers, key lists and
instants all ignore or refuse blanks by this one rule; look-alikes outside the property, such as
the zero-width space, are ordinary characters.
-/

namespace RelyingParty.Text
set_option autoImplicit false

/-- The first and last code point of each run of characters with the `White_Space` property. -/
def blankRanges : List (Nat × Nat) :=
  [(0x09, 0x0D), (0x20, 0x20), (0x85, 0x85), (0xA0, 0xA0), (0x1680, 0x1680), (0x2000, 0x200A),
   (0x2028, 0x2029), (0x202F, 0x202F), (0x205F, 0x205F), (0x3000, 0x3000)]

/-- Whether `c` is white space. -/
def isBlank (c : Char) : Bool :=
  blankRanges.any fun r => decide (r.1 ≤ c.toNat) && decide (c.toNat ≤ r.2)

/-- The characters left after the blanks at the front. -/
def skipBlanks (cs : List Char) : List Char :=
  cs.dropWhile isBlank

/-- The characters left after the blanks at both ends. -/
def trimChars (cs : List Char) : List Char :=
  (skipBlanks (skipBlanks cs).reverse).reverse

/-- Whether a text holds nothing but blanks. -/
def isBlankText (s : String) : Bool :=
  s.toList.all isBlank

/-- Whether an optional text is absent or blank. -/
def isMissing : Option String → Bool
  | none => true
  | some s => isBlankText s

end RelyingParty.Text
