import RelyingParty.Proofs.Assertion.Document
import RelyingParty.Proofs.Engine.Authenticity

/-!
# Signatures survive transport

A signed assertion that is written as text and read again still verifies. The reader gives back every
part as it was signed, and the signed bytes take no notice of the signature.
-/

namespace RelyingParty
set_option autoImplicit false
open Signing Trust

/-- Verification under the public key of a secret accepts what is signed of a message with that secret. -/
def Signing.Scheme.AcceptsOwn (scheme : Scheme) (secret message : List UInt8) : Prop :=
  scheme.verify (scheme.publicKey secret) message (scheme.sign secret message) = .ok ()

namespace Signing.KeyPair

variable {scheme : Scheme} {k : KeyPair} {a : Assertion}

/-- The signed bytes take no notice of a signature. -/
theorem signedBytes_withSignature (a : Assertion) (signature : Option AssertionSignature) :
    { a with signature }.signedBytes = a.signedBytes :=
  Assertion.SameContent.signedBytes ⟨rfl, rfl, rfl, rfl, rfl, rfl, rfl⟩

theorem sign_withSignature (a : Assertion) (signature : Option AssertionSignature) :
    k.sign scheme { a with signature } = k.sign scheme a := by
  rw [sign_eq, signedBytes_withSignature a signature, sign_eq]

/-- A signature replaces any other one, of which nothing is left. -/
theorem sign_sign (k' : KeyPair) : (k'.sign scheme a >>= k.sign scheme) = k.sign scheme a := by
  rw [sign_eq]
  exact sign_withSignature a _

/-- A signature is accepted where the public half of its key is trusted. -/
theorem verify_sign {m : Material} {role : SignerRole} (own : scheme.AcceptsOwn k.secret a.signedBytes)
    (trusted : m.key? role k.kid = some (k.publicKey scheme)) :
    m.verify scheme { a with signature := some ⟨k.kid, scheme.sign k.secret a.signedBytes⟩ } role = .ok () := by
  refine Material.verify_eq_ok_iff.2 ⟨⟨k.kid, scheme.sign k.secret a.signedBytes⟩, _, rfl, trusted, ?_⟩
  rw [signedBytes_withSignature a]
  exact own

end Signing.KeyPair

/-- **A signature survives transport.** Signing always succeeds. What is signed, written and read again is
accepted for the role that its key is trusted for, and is the original but for the signature. An earlier
signature makes no difference. -/
theorem verify_read_of_sign {scheme : Scheme} {k : KeyPair} {a : Assertion} {m : Material}
    {role : SignerRole} (legible : a.Legible) (own : scheme.AcceptsOwn k.secret a.signedBytes)
    (trusted : m.key? role k.kid = some (k.publicKey scheme)) :
    (∃ signed b s, k.sign scheme a = .ok signed ∧ Assertion.ofText? signed.text = some b ∧
        (SignatureVerifier.ofMaterial scheme m).verify b role = .ok () ∧
        b = { a with signature := some s } ∧ s.keyId = k.kid) ∧
      ∀ k' : KeyPair, (k'.sign scheme a >>= k.sign scheme) = k.sign scheme a := by
  let signed : Assertion := { a with signature := some ⟨k.kid, scheme.sign k.secret a.signedBytes⟩ }
  have legibleSigned : signed.Legible := legible
  refine ⟨⟨signed, signed, ⟨k.kid, scheme.sign k.secret a.signedBytes⟩, ?_, ?_, ?_, rfl, rfl⟩, ?_⟩
  · exact KeyPair.sign_eq scheme k a
  · exact Assertion.ofText?_text legibleSigned
  · exact KeyPair.verify_sign own trusted
  · exact KeyPair.sign_sign

namespace Sample

/-- The key pair of an identity provider. -/
def keyPair : KeyPair where
  kid := key.kid
  secret := [157, 97, 177, 157, 239, 253, 90, 96, 186, 132, 74, 244, 146, 236, 44, 196, 68, 73, 197, 105,
    123, 50, 105, 25, 112, 59, 172, 3, 28, 174, 127, 96]

/-- An assertion of who the subject is, with a signature that somebody made up. -/
def disputed : Assertion := { person with signature := some ⟨"idp-2", [0]⟩ }

theorem publicKey_keyPair : Ed25519.scheme.publicKey keyPair.secret = key.bytes := by decide +kernel

theorem sign_person : Ed25519.scheme.sign keyPair.secret person.signedBytes = signatureOf person := by
  rw [Assertion.signedBytes_eq_flatMap]
  decide +kernel

theorem acceptsOwn : Ed25519.scheme.AcceptsOwn keyPair.secret person.signedBytes := by
  rw [Scheme.AcceptsOwn, publicKey_keyPair, sign_person]
  exact ed25519_person

end Sample

theorem verify_read_of_sign_sample :
    Sample.disputed.Legible ∧
      Ed25519.scheme.AcceptsOwn Sample.keyPair.secret Sample.disputed.signedBytes ∧
      Sample.material.key? .idp Sample.keyPair.kid = some (Sample.keyPair.publicKey Ed25519.scheme) ∧
      (∃ signed b s, Sample.keyPair.sign Ed25519.scheme Sample.disputed = .ok signed ∧
        Assertion.ofText? signed.text = some b ∧
        (SignatureVerifier.ofMaterial Ed25519.scheme Sample.material).verify b .idp = .ok () ∧
        b = { Sample.disputed with signature := some s } ∧ s.keyId = Sample.keyPair.kid) ∧
      ∀ k' : KeyPair, (k'.sign Ed25519.scheme Sample.disputed >>= Sample.keyPair.sign Ed25519.scheme) =
        Sample.keyPair.sign Ed25519.scheme Sample.disputed := by
  have legible : Sample.disputed.Legible := by decide
  have own : Ed25519.scheme.AcceptsOwn Sample.keyPair.secret Sample.disputed.signedBytes := by
    rw [Sample.disputed, KeyPair.signedBytes_withSignature Sample.person]
    exact Sample.acceptsOwn
  have trusted : Sample.material.key? .idp Sample.keyPair.kid =
      some (Sample.keyPair.publicKey Ed25519.scheme) := by
    rw [KeyPair.publicKey, Sample.publicKey_keyPair]
    rfl
  exact ⟨legible, own, trusted, verify_read_of_sign legible own trusted⟩

end RelyingParty
