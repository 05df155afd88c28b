import RelyingParty.Assurance
import RelyingParty.Canonical

/-!
# Responses

The hub's status codes, the scenarios that they stand for, and the bodies handed on: a verified
identity for a success, and a bare scenario for everything else.
-/

namespace RelyingParty
set_option autoImplicit false

/-- The status of a hub response. -/
structure StatusCode where
  value : String
  subStatus : Option String
deriving DecidableEq

/-- The outcome of a response. -/
inductive Scenario where
  | identityVerified
  | cancellation
  | authenticationFailed
  | noAuthentication
  | requestError
deriving DecidableEq

/-- A verified identity. -/
structure VerifiedIdentity where
  scenario : Scenario
  /-- The persistent identifier of the subject. -/
  pid : String
  levelOfAssurance : AssuranceLevel
  attributes : CanonicalAttributes
deriving DecidableEq

/-- The body of an answer; only a verified identity has more than a scenario. -/
structure ResponseBody where
  scenario : Scenario
  pid : Option String
  levelOfAssurance : Option AssuranceLevel
  attributes : Option CanonicalAttributes
deriving DecidableEq

namespace StatusCode

/-- The request was answered. -/
def success : String := "urn:oasis:names:tc:SAML:2.0:status:Success"

/-- The request was at fault. -/
def requester : String := "urn:oasis:names:tc:SAML:2.0:status:Requester"

/-- The hub or a provider could not answer; the sub-status says why. -/
def responder : String := "urn:oasis:names:tc:SAML:2.0:status:Responder"

/-- The subject could not be authenticated. -/
def authnFailed : String := "urn:oasis:names:tc:SAML:2.0:status:AuthnFailed"

/-- The subject gave up before any authentication. -/
def noAuthnContext : String := "urn:oasis:names:tc:SAML:2.0:status:NoAuthnContext"

/-- The subject was not signed in already. -/
def noPassive : String := "urn:oasis:names:tc:SAML:2.0:status:NoPassive"

/-- A status in a document. -/
def toJson (s : StatusCode) : Json :=
  .object (("value", .string s.value) :: Json.member? "sub_status" .string s.subStatus)

/-- The status that a document holds. -/
def ofJson? : Json.Decoder StatusCode := fun json => do
  let r ← Json.Record.ofJson? ["value", "sub_status"] json
  return {
    value := ← r.required "value" Json.string?
    subStatus := ← r.optional "sub_status" Json.string? }

end StatusCode

namespace Scenario

/-- All scenarios. -/
def all : List Scenario :=
  [identityVerified, cancellation, authenticationFailed, noAuthentication, requestError]

/-- The name of a scenario. -/
def name : Scenario → String
  | identityVerified => "IDENTITY_VERIFIED"
  | cancellation => "CANCELLATION"
  | authenticationFailed => "AUTHENTICATION_FAILED"
  | noAuthentication => "NO_AUTHENTICATION"
  | requestError => "REQUEST_ERROR"

/-- A scenario in a document. -/
def toJson (s : Scenario) : Json := .string s.name

/-- The scenario that a document holds. -/
def ofJson? : Json.Decoder Scenario := Json.constant? name all

end Scenario

namespace VerifiedIdentity

/-- An identity in a document. -/
def toJson (i : VerifiedIdentity) : Json :=
  .object [
    ("scenario", i.scenario.toJson),
    ("pid", .string i.pid),
    ("levelOfAssurance", i.levelOfAssurance.toJson),
    ("attributes", i.attributes.toJson)]

/-- The identity that a document holds. -/
def ofJson? : Json.Decoder VerifiedIdentity := fun json => do
  let r ← Json.Record.ofJson? ["scenario", "pid", "levelOfAssurance", "attributes"] json
  return {
    scenario := ← r.required "scenario" Scenario.ofJson?
    pid := ← r.required "pid" Json.string?
    levelOfAssurance := ← r.required "levelOfAssurance" AssuranceLevel.ofJson?
    attributes := ← r.required "attributes" CanonicalAttributes.ofJson? }

/-- The text of an identity's document. -/
def text (i : VerifiedIdentity) : String := i.toJson.text

/-- The identity that the text of a document holds. -/
def ofText? : String → Option VerifiedIdentity := Json.decodeText? ofJson?

end VerifiedIdentity

namespace ResponseBody

/-- The body of a verified identity. -/
def ofIdentity (i : VerifiedIdentity) : ResponseBody :=
  ⟨i.scenario, some i.pid, some i.levelOfAssurance, some i.attributes⟩

/-- The body of a scenario without an identity. -/
def ofScenario (s : Scenario) : ResponseBody := ⟨s, none, none, none⟩

/-- A body in a document. -/
def toJson (b : ResponseBody) : Json :=
  .object ([("scenario", b.scenario.toJson)]
    ++ Json.member? "pid" .string b.pid
    ++ Json.member? "levelOfAssurance" AssuranceLevel.toJson b.levelOfAssurance
    ++ Json.member? "attributes" CanonicalAttributes.toJson b.attributes)

/-- The body that a document holds. -/
def ofJson? : Json.Decoder ResponseBody := fun json => do
  let r ← Json.Record.ofJson? ["scenario", "pid", "levelOfAssurance", "attributes"] json
  return {
    scenario := ← r.required "scenario" Scenario.ofJson?
    pid := ← r.optional "pid" Json.string?
    levelOfAssurance := ← r.optional "levelOfAssurance" AssuranceLevel.ofJson?
    attributes := ← r.optional "attributes" CanonicalAttributes.ofJson? }

/-- The text of a body's document. -/
def text (b : ResponseBody) : String := b.toJson.text

/-- The body that the text of a document holds. -/
def ofText? : String → Option ResponseBody := Json.decodeText? ofJson?

end ResponseBody
end RelyingParty
