import RelyingParty.Trust.Registry

/-!
# Checking signatures against trust material

The key that a signature names has to be trusted for the role that is expected to have signed, and the
signature has to verify under it.
-/

namespace RelyingParty.Trust
set_option autoImplicit false
open Signing

/-- Why the signature of an assertion is not accepted. -/
inductive SignatureError where
  | missingSignature
  | unknownSigningKey (role : SignerRole) (keyId : String)
  | noTrustedKeys (role : SignerRole)
  | invalid (fault : CheckFault)
  | rejected (reason : String)
deriving DecidableEq

/-- The wording of a signature error. -/
def SignatureError.message : SignatureError → String
  | .missingSignature => "Assertion is not signed"
  | .unknownSigningKey role keyId =>
    "No trusted " ++ role.name ++ " signing key with id '" ++ keyId ++ "'"
  | .noTrustedKeys role => "No trusted " ++ role.name ++ " signing keys are configured"
  | .invalid fault => "Signature did not verify: " ++ fault.message
  | .rejected reason => "Signature rejected: " ++ reason

/-- A refused signature as a signature error. -/
def SignatureError.ofCheck : CheckFault → SignatureError
  | .missingSignature => .missingSignature
  | fault => .invalid fault

/-- Checks the signature of an assertion against the keys trusted for a role. -/
def Material.verify (scheme : Scheme) (m : Material) (a : Assertion) (role : SignerRole) :
    Except SignatureError Unit :=
  match a.signature with
  | none => .error .missingSignature
  | some s =>
    if m.keyCount role = 0 then .error (.noTrustedKeys role)
    else
      match m.key? role s.keyId with
      | none => .error (.unknownSigningKey role s.keyId)
      | some key => (key.checkAssertion scheme a).mapError .ofCheck

/-- Checks the signature of an assertion against a snapshot that is taken for it. -/
def TrustSource.verify (scheme : Scheme) (t : TrustSource) (a : Assertion) (role : SignerRole) :
    Except SignatureError Unit :=
  t.snapshot.material.verify scheme a role

end RelyingParty.Trust
