import RelyingParty.Engine.Basic

/-!
# Validating assertions

The checks of one assertion, in their order, and the checks that two assertions describe one sign-in.
The collaborators see an assertion only after its own fields were found in order.
-/

namespace RelyingParty
set_option autoImplicit false
open Trust

/-- Checks the fields that every assertion has: issue instant, identifier, issuer, version. -/
def checkFields (a : Assertion) : Except ValidationFailure Unit :=
  if a.issueInstant.isNone then .error .missingIssueInstant
  else if Text.isMissing a.id then .error .missingId
  else if Text.isMissing a.issuer then .error (.missingIssuer a.idText)
  else
    match a.version with
    | none => .error (.missingVersion a.idText)
    | some .v2_0 => .ok ()
    | some _ => .error (.illegalVersion a.idText)

namespace Engine

/-- Validates one assertion: its fields, its signature for a role, its subject, its attributes. -/
def validateRun (e : Engine) (a : Assertion) (expected : String) (role : SignerRole) : Run Unit := do
  Run.check (checkFields a)
  Run.call (.signature a role) (e.signature.verify a role) (.invalidSignature a.idText)
  Run.call (.subject a.subject expected) (e.subject a.subject expected)
    (.invalidSubject a.idText)
  Run.call (.attributes a) (e.attributes a) (.invalidAttributeStatement a.idText)

/-- Whether one assertion is valid, and why not. -/
def validate (e : Engine) (a : Assertion) (expected : String) (role : SignerRole) :
    Except ValidationFailure Unit :=
  (e.validateRun a expected role).result

end Engine

/-- Checks that two assertions name the same issuer, then the same subject. -/
def checkAgreement (authn identity : Assertion) : Except ValidationFailure Unit :=
  if authn.issuer ≠ identity.issuer then .error .mismatchedIssuers
  else if authn.nameId ≠ identity.nameId then .error .mismatchedPids
  else .ok ()

end RelyingParty
