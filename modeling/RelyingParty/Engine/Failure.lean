import RelyingParty.Assurance
import RelyingParty.Confirmation
import RelyingParty.Schema.Basic
import RelyingParty.Trust.Verifier

/-!
# Validation failures

Why a hub response is rejected. Every failure has a message for people, a code and a category for
programs, and, where it was found on one assertion that has an identifier, that identifier.
-/

namespace RelyingParty
set_option autoImplicit false

/-- Why a response was rejected. -/
inductive ValidationFailure where
  | exactlyOneAuthnAssertionExpected (found : Nat)
  | exactlyOneIdentityAssertionExpected (found : Nat)
  | missingIssueInstant
  | missingId
  | missingIssuer (assertionId : String)
  | missingVersion (assertionId : String)
  | illegalVersion (assertionId : String)
  | invalidSignature (assertionId : String) (source : Trust.SignatureError)
  | invalidSubject (assertionId : String) (source : SubjectError)
  | invalidAttributeStatement (assertionId : String) (source : Schema.AttributeError)
  | mismatchedIssuers
  | mismatchedPids
  | exactlyOneAuthnStatementExpected (found : Nat)
  | missingAuthnContext
  | unsupportedAssuranceLevel (source : UnsupportedLevel)
  | levelOfAssuranceBelowMinimum (actual minimum : AssuranceLevel)
  | unexpectedSuccessStatus
  | unknownStatusCode (value : String) (subStatus : Option String)
deriving DecidableEq

/-- The broad class of a failure. -/
inductive FailureCategory where
  | malformed
  | security
  | schema
  | cardinality
  | consistency
  | policy
deriving DecidableEq

/-- The name of a category. -/
def FailureCategory.name : FailureCategory → String
  | malformed => "MALFORMED"
  | security => "SECURITY"
  | schema => "SCHEMA"
  | cardinality => "CARDINALITY"
  | consistency => "CONSISTENCY"
  | policy => "POLICY"

namespace ValidationFailure

/-- The wording of a failure that names an assertion. -/
def about (assertionId rest : String) : String :=
  "Assertion with id " ++ assertionId ++ " " ++ rest

/-- The wording of a failure. It names identifiers and levels, never attribute values. -/
def message : ValidationFailure → String
  | exactlyOneAuthnAssertionExpected found =>
    "Exactly one authn assertion is expected, found " ++ Text.decimal found
  | exactlyOneIdentityAssertionExpected found =>
    "Exactly one matching dataset assertion is expected, found " ++ Text.decimal found
  | missingIssueInstant => "Assertion IssueInstant is missing"
  | missingId => "Assertion Id is missing or blank"
  | missingIssuer assertionId => about assertionId "has missing or blank Issuer"
  | missingVersion assertionId => about assertionId "has missing Version"
  | illegalVersion assertionId => about assertionId "declared an illegal Version attribute value"
  | invalidSignature assertionId _ => about assertionId "failed signature validation"
  | invalidSubject assertionId _ => about assertionId "has an invalid subject"
  | invalidAttributeStatement assertionId _ =>
    about assertionId "has an invalid attribute statement"
  | mismatchedIssuers =>
    "Authn and matching dataset assertions were issued by different issuers"
  | mismatchedPids => "Authn and matching dataset assertions refer to different subjects"
  | exactlyOneAuthnStatementExpected found =>
    "Exactly one authn statement is expected, found " ++ Text.decimal found
  | missingAuthnContext => "Authn statement has no authn context class reference"
  | unsupportedAssuranceLevel source => source.message
  | levelOfAssuranceBelowMinimum actual minimum =>
    "Level of assurance " ++ actual.name ++ " is below the required minimum " ++ minimum.name
  | unexpectedSuccessStatus => "Success status cannot be translated as a non-success response"
  | unknownStatusCode value _ => "Unknown status code: " ++ value

/-- The stable code of a failure. -/
def code : ValidationFailure → String
  | exactlyOneAuthnAssertionExpected _ => "EXACTLY_ONE_AUTHN_ASSERTION_EXPECTED"
  | exactlyOneIdentityAssertionExpected _ => "EXACTLY_ONE_IDENTITY_ASSERTION_EXPECTED"
  | missingIssueInstant => "MISSING_ISSUE_INSTANT"
  | missingId => "MISSING_ID"
  | missingIssuer _ => "MISSING_ISSUER"
  | missingVersion _ => "MISSING_VERSION"
  | illegalVersion _ => "ILLEGAL_VERSION"
  | invalidSignature _ _ => "INVALID_SIGNATURE"
  | invalidSubject _ _ => "INVALID_SUBJECT"
  | invalidAttributeStatement _ _ => "INVALID_ATTRIBUTE_STATEMENT"
  | mismatchedIssuers => "MISMATCHED_ISSUERS"
  | mismatchedPids => "MISMATCHED_PIDS"
  | exactlyOneAuthnStatementExpected _ => "EXACTLY_ONE_AUTHN_STATEMENT_EXPECTED"
  | missingAuthnContext => "MISSING_AUTHN_CONTEXT"
  | unsupportedAssuranceLevel _ => "UNSUPPORTED_ASSURANCE_LEVEL"
  | levelOfAssuranceBelowMinimum _ _ => "LEVEL_OF_ASSURANCE_BELOW_MINIMUM"
  | unexpectedSuccessStatus => "UNEXPECTED_SUCCESS_STATUS"
  | unknownStatusCode _ _ => "UNKNOWN_STATUS_CODE"

/-- The category of a failure. -/
def category : ValidationFailure → FailureCategory
  | missingIssueInstant | missingId | missingIssuer _ | missingVersion _ | illegalVersion _
  | missingAuthnContext | unknownStatusCode _ _ => .malformed
  | invalidSignature _ _ | invalidSubject _ _ => .security
  | invalidAttributeStatement _ _ => .schema
  | exactlyOneAuthnAssertionExpected _ | exactlyOneIdentityAssertionExpected _
  | exactlyOneAuthnStatementExpected _ => .cardinality
  | mismatchedIssuers | mismatchedPids => .consistency
  | unsupportedAssuranceLevel _ | levelOfAssuranceBelowMinimum _ _ | unexpectedSuccessStatus =>
    .policy

/-- The identifier of the assertion that a failure was found on. -/
def assertionId : ValidationFailure → Option String
  | missingIssuer id | missingVersion id | illegalVersion id | invalidSignature id _
  | invalidSubject id _ | invalidAttributeStatement id _ => some id
  | _ => none

end ValidationFailure
end RelyingParty
