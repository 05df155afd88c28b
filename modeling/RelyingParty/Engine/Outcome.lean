import RelyingParty.Engine.Validation
import RelyingParty.Response

/-!
# The outcome of a response

A successful response becomes a verified identity: its two assertions are told apart and validated,
compared with each other, the level is resolved and held against the minimum, and only then is the
dataset extracted. Any other response becomes the scenario of its status.
-/

namespace RelyingParty
set_option autoImplicit false

/-- The authentication assertion and the identity assertion of a bundle. -/
def splitBundle (bundle : List Assertion) : Except ValidationFailure (Assertion × Assertion) :=
  match withRole .authn bundle, withRole .identity bundle with
  | [authn], [identity] => .ok (authn, identity)
  | [_], identities => .error (.exactlyOneIdentityAssertionExpected identities.length)
  | authns, _ => .error (.exactlyOneAuthnAssertionExpected authns.length)

/-- The level that the single authentication statement of an assertion claims. -/
def claimedLevel (authn : Assertion) : Except ValidationFailure AssuranceLevel :=
  match authn.authnStatements with
  | [statement] =>
    match statement.contextClassRef with
    | none => .error .missingAuthnContext
    | some context => (AssuranceLevel.resolve context).mapError .unsupportedAssuranceLevel
  | statements => .error (.exactlyOneAuthnStatementExpected statements.length)

/-- The claimed level, when it meets the minimum. -/
def sufficientLevel (authn : Assertion) (minimum : AssuranceLevel) :
    Except ValidationFailure AssuranceLevel :=
  match claimedLevel authn with
  | .error e => .error e
  | .ok level =>
    if level.meets minimum then .ok level else .error (.levelOfAssuranceBelowMinimum level minimum)

/-- The persistent identifier of an assertion's subject, when it is not blank. -/
def persistentId (identity : Assertion) : Except ValidationFailure String :=
  match identity.nameId with
  | some nameId =>
    if Text.isBlankText nameId then .error (.invalidSubject identity.idText .missingNameId)
    else .ok nameId
  | none => .error (.invalidSubject identity.idText .missingNameId)

namespace Engine

/-- Goes through the bundle of a successful response to the expected request. -/
def identifyRun (e : Engine) (bundle : List Assertion) (expected : String)
    (minimum : AssuranceLevel) : Run VerifiedIdentity := do
  let (authn, identity) ← Run.check (splitBundle bundle)
  e.validateRun authn expected .idp
  e.validateRun identity expected .idp
  Run.check (checkAgreement authn identity)
  let level ← Run.check (sufficientLevel authn minimum)
  let pid ← Run.check (persistentId identity)
  let dataset ← Run.call (.extract identity) (e.extract identity)
    (.invalidAttributeStatement identity.idText)
  return ⟨.identityVerified, pid, level, dataset.canonical⟩

/-- The identity that the bundle of a successful response proves, or why it proves none. -/
def identify (e : Engine) (bundle : List Assertion) (expected : String)
    (minimum : AssuranceLevel) : Except ValidationFailure VerifiedIdentity :=
  (e.identifyRun bundle expected minimum).result

end Engine

/-- The scenario of a status other than success. -/
def StatusCode.scenario (s : StatusCode) : Except ValidationFailure Scenario :=
  if s.value = StatusCode.requester then .ok .requestError
  else if s.value = StatusCode.responder ∧ s.subStatus = some StatusCode.noAuthnContext then
    .ok .cancellation
  else if s.value = StatusCode.responder ∧ s.subStatus = some StatusCode.authnFailed then
    .ok .authenticationFailed
  else if s.value = StatusCode.responder ∧ s.subStatus = some StatusCode.noPassive then
    .ok .noAuthentication
  else if s.value = StatusCode.success then .error .unexpectedSuccessStatus
  else .error (.unknownStatusCode s.value s.subStatus)

/-- The body of a response other than a success. -/
def StatusCode.body (s : StatusCode) : Except ValidationFailure ResponseBody :=
  s.scenario.map ResponseBody.ofScenario

end RelyingParty
