import RelyingParty.Json.Quoted

/-!
# Hexadecimal bytes

Byte strings are shown as two lower-case digits a byte and read in either case.
-/

namespace RelyingParty.Bytes
set_option autoImplicit false

/-- The two digits of each byte. -/
def hexChars (bytes : List UInt8) : List Char :=
  bytes.flatMap fun b => [Json.hexChar (b.toNat / 16), Json.hexChar (b.toNat % 16)]

/-- The hexadecimal text of a byte string. -/
def hex (bytes : List UInt8) : String :=
  String.ofList (hexChars bytes)

/-- The bytes that pairs of digits write. -/
def readHex? : List Char → Option (List UInt8)
  | [] => some []
  | high :: low :: rest => do
    let h ← Json.hexValue? high
    let l ← Json.hexValue? low
    return UInt8.ofNat (16 * h + l) :: (← readHex? rest)
  | [_] => none

/-- The bytes that a hexadecimal text writes. -/
def ofHex? (s : String) : Option (List UInt8) :=
  readHex? s.toList

end RelyingParty.Bytes
