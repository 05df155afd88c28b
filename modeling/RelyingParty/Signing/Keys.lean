import RelyingParty.Assertion.SigningInput
import RelyingParty.Signing.Scheme

/-!
# Signing and checking assertions

Keys are known by an identifier. A signature carries the identifier of its key, and covers every part
of the assertion but the signature itself.
-/

namespace RelyingParty.Signing
set_option autoImplicit false

/-- A public key and its identifier. -/
structure PublicKey where
  kid : String
  bytes : List UInt8
deriving DecidableEq

/-- A secret key and its identifier. -/
structure KeyPair where
  kid : String
  secret : List UInt8

/-- Why bytes are not a public key. -/
inductive KeyFault where
  | wrongLength (length : Nat)
  | notAPoint
deriving DecidableEq

/-- The wording of a key fault. -/
def KeyFault.message : KeyFault → String
  | .wrongLength length =>
    "Invalid key material: expected 32 bytes, got " ++ Text.decimal length
  | .notAPoint => "Invalid key material: signature error: Cannot decompress Edwards point"

/-- Why the signature on an assertion is refused. -/
inductive CheckFault where
  | missingSignature
  | keyIdMismatch (expected actual : String)
  | invalid (fault : SignatureFault)
  | serialization (fault : WritingFault)
deriving DecidableEq

/-- The wording of a refused signature. -/
def CheckFault.message : CheckFault → String
  | .missingSignature => "Assertion is not signed"
  | .keyIdMismatch expected actual =>
    "Key id mismatch: expected '" ++ expected ++ "', got '" ++ actual ++ "'"
  | .invalid fault => "Signature verification failed: " ++ fault.message
  | .serialization fault => "Serialization error: " ++ fault.message

namespace PublicKey

/-- The public key of 32 bytes that the scheme takes as one. -/
def ofBytes (scheme : Scheme) (kid : String) (bytes : List UInt8) : Except KeyFault PublicKey :=
  if bytes.length ≠ 32 then .error (.wrongLength bytes.length)
  else if scheme.isPublicKey bytes then .ok ⟨kid, bytes⟩
  else .error .notAPoint

/-- Checks that the signature on an assertion names this key and verifies under it. -/
def checkAssertion (scheme : Scheme) (key : PublicKey) (a : Assertion) : Except CheckFault Unit :=
  match a.signature with
  | none => .error .missingSignature
  | some s =>
    if s.keyId ≠ key.kid then .error (.keyIdMismatch key.kid s.keyId)
    else if scheme.isSignature s.value = false then .error (.invalid .wrongLength)
    else
      match a.signingInput with
      | .error fault => .error (.serialization fault)
      | .ok input => (scheme.verifyInput key.bytes input s.value).mapError .invalid

/-- The signature on an assertion that names the key is checked by the scheme alone. -/
theorem checkAssertion_of_kid (scheme : Scheme) (key : PublicKey) {a : Assertion} {s : AssertionSignature}
    (signed : a.signature = some s) (named : s.keyId = key.kid) :
    key.checkAssertion scheme a = (scheme.verify key.bytes a.signedBytes s.value).mapError .invalid := by
  simp only [checkAssertion, signed, if_neg (not_not_intro named), a.signingInput_eq, Scheme.verify]
  cases scheme.isSignature s.value <;> rfl

end PublicKey

namespace KeyPair

/-- The public half. -/
def publicKey (scheme : Scheme) (k : KeyPair) : PublicKey :=
  ⟨k.kid, scheme.publicKey k.secret⟩

/-- Signs an assertion, with a signature by this key in place of any other. -/
def sign (scheme : Scheme) (k : KeyPair) (a : Assertion) : Except WritingFault Assertion := do
  let input ← a.signingInput
  return { a with signature := some ⟨k.kid, scheme.sign k.secret input⟩ }

theorem sign_eq (scheme : Scheme) (k : KeyPair) (a : Assertion) :
    k.sign scheme a = .ok { a with signature := some ⟨k.kid, scheme.sign k.secret a.signedBytes⟩ } := by
  rw [sign, a.signingInput_eq]
  rfl

end KeyPair
end RelyingParty.Signing
