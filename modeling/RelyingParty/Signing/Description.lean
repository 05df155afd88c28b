import RelyingParty.Signing.Keys
import RelyingParty.Text.Shown

/-!
# Describing keys and signatures

The descriptions for diagnostics name the key and nothing else; secrets and signature bytes are left
out.
-/

namespace RelyingParty
set_option autoImplicit false

/-- A description of a named thing with fields, each already shown. -/
def describe (name : String) (fields : List (String × String)) : String :=
  name ++ " \x7b " ++ ", ".intercalate (fields.map fun f => f.1 ++ ": " ++ f.2) ++ " \x7d"

/-- What stands in the place of a secret. -/
def redacted : String := Text.shown "[redacted]"

/-- The description of a key pair. -/
def Signing.KeyPair.description (k : Signing.KeyPair) : String :=
  describe "KeyPair" [("kid", Text.shown k.kid), ("signing_key", redacted)]

/-- The description of a public key. -/
def Signing.PublicKey.description (k : Signing.PublicKey) : String :=
  describe "PublicKey" [("kid", Text.shown k.kid)]

/-- The description of a signature. -/
def AssertionSignature.description (s : AssertionSignature) : String :=
  describe "AssertionSignature" [("key_id", Text.shown s.keyId), ("value", redacted)]

end RelyingParty
