/-!
# Signature schemes

What signing and checking assertions needs of a signature scheme, with keys, messages and signatures
as byte strings. The library's own scheme is Ed25519; results about assertions hold for any scheme.
-/

namespace RelyingParty.Signing
set_option autoImplicit false

/-- Why a signature does not verify. -/
inductive SignatureFault where
  | wrongLength
  | scalarOutOfRange
  | equationNotSatisfied
deriving DecidableEq

/-- The wording of a fault. -/
def SignatureFault.message : SignatureFault → String
  | .wrongLength => "signature error"
  | .scalarOutOfRange => "signature error: Cannot use scalar with high-bit set"
  | .equationNotSatisfied => "signature error: Verification equation was not satisfied"

/-- A signature scheme. -/
structure Scheme where
  /-- Whether 32 bytes are a public key. -/
  isPublicKey : List UInt8 → Bool
  /-- The public key of a secret key. -/
  publicKey : (secret : List UInt8) → List UInt8
  /-- The signature of a message under a secret key. -/
  sign : (secret message : List UInt8) → List UInt8
  /-- Whether bytes are as long as a signature. -/
  isSignature : List UInt8 → Bool
  /-- Whether bytes of that length are a signature of a message under a public key, and what is wrong if
  not. -/
  verifyInput : (key message signature : List UInt8) → Except SignatureFault Unit

/-- Whether bytes are a signature of a message under a public key, and what is wrong if not. -/
def Scheme.verify (scheme : Scheme) (key message signature : List UInt8) : Except SignatureFault Unit :=
  if scheme.isSignature signature then scheme.verifyInput key message signature else .error .wrongLength

end RelyingParty.Signing
