import RelyingParty.Signing.Edwards
import RelyingParty.Signing.Scheme
import RelyingParty.Signing.Sha512

/-!
# Ed25519

Signatures over the twisted Edwards curve with SHA-512. Verification recomputes the first half of the
signature and compares bytes; it neither multiplies by the cofactor nor refuses keys of small order.
-/

namespace RelyingParty.Signing.Ed25519
set_option autoImplicit false
open Edwards

/-- The secret scalar and the hashing half of a secret key. -/
def expand (secret : List UInt8) : Nat × List UInt8 :=
  let digest := Sha512.hash secret
  let n := ofLittleEndian (digest.take 32)
  (Nat.pow 2 254 + n % Nat.pow 2 254 / 8 * 8, digest.drop 32)

/-- The public key of a secret key. -/
def publicKey (secret : List UInt8) : List UInt8 :=
  (base.multiple (expand secret).1).encode

/-- The scalar of a hash. -/
def hashScalar (bytes : List UInt8) : Nat :=
  ofLittleEndian (Sha512.hash bytes) % order

/-- The signature of a message: the encoded nonce point and the response scalar. -/
def sign (secret message : List UInt8) : List UInt8 :=
  let (scalar, half) := expand secret
  let nonce := hashScalar (half ++ message)
  let point := (base.multiple nonce).encode
  let challenge := hashScalar (point ++ publicKey secret ++ message)
  point ++ littleEndian 32 ((nonce + challenge * scalar) % order)

/-- Checks a signature of 64 bytes, with the scalar below the group order, by
`R = s · B - k · A` on encoded points. -/
def verifyInput (key message signature : List UInt8) : Except SignatureFault Unit :=
  let point := signature.take 32
  let scalar := ofLittleEndian (signature.drop 32)
  if order ≤ scalar then .error .scalarOutOfRange
  else
    match Point.decode? key with
    | none => .error .equationNotSatisfied
    | some a =>
      let challenge := hashScalar (point ++ key ++ message)
      let expected := (base.multiple scalar).add (a.neg.multiple challenge)
      if expected.encode = point then .ok () else .error .equationNotSatisfied

/-- The Ed25519 scheme. -/
def scheme : Scheme where
  isPublicKey bytes := (Point.decode? bytes).isSome
  publicKey := publicKey
  sign := sign
  isSignature signature := signature.length == 64
  verifyInput := verifyInput

end RelyingParty.Signing.Ed25519
