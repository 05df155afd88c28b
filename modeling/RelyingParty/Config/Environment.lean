import RelyingParty.Json.Record

/-!
# Hub environments

A deployment of the hub has its own sign-in location, metadata location and trust stores. A relying
party picks one environment by its exact name.
-/

namespace RelyingParty.Config
set_option autoImplicit false

/-- A deployment environment of the hub. -/
inductive HubEnvironment where
  | production
  | integration
  | complianceTool
deriving DecidableEq

/-- The names of the trust stores of an environment. -/
structure TrustStores where
  metadata : String
  hub : String
  idp : String
deriving DecidableEq

namespace HubEnvironment

/-- All environments. -/
def all : List HubEnvironment := [production, integration, complianceTool]

/-- The environment that counts when none is picked. -/
def default : HubEnvironment := complianceTool

/-- The name of an environment. -/
def name : HubEnvironment → String
  | production => "PRODUCTION"
  | integration => "INTEGRATION"
  | complianceTool => "COMPLIANCE_TOOL"

/-- The environment with a name, spelled exactly. -/
def ofName? (s : String) : Option HubEnvironment :=
  all.find? fun e => e.name == s

/-- Where subjects are sent to sign in. -/
def ssoLocation : HubEnvironment → String
  | production => "https://www.signin.service.gov.uk/SAML2/SSO"
  | integration => "https://www.integration.signin.service.gov.uk/SAML2/SSO"
  | complianceTool =>
    "https://compliance-tool-reference.ida.digital.cabinet-office.gov.uk/SAML2/SSO"

/-- Where the metadata of the federation is published. -/
def metadataUri : HubEnvironment → String
  | production => "https://www.signin.service.gov.uk/SAML2/metadata/federation"
  | integration => "https://www.integration.signin.service.gov.uk/SAML2/metadata/federation"
  | complianceTool =>
    "https://compliance-tool-reference.ida.digital.cabinet-office.gov.uk/SAML2/metadata/federation"

/-- Where the trust anchor is published; no environment publishes one. -/
def trustAnchorUri : HubEnvironment → Option String
  | _ => none

/-- The trust stores of an environment. -/
def trustStores : HubEnvironment → TrustStores
  | production =>
    ⟨"prod_metadata_truststore.ts", "prod_hub_truststore.ts", "prod_idp_truststore.ts"⟩
  | integration | complianceTool =>
    ⟨"test_metadata_truststore.ts", "test_hub_truststore.ts", "test_idp_truststore.ts"⟩

/-- An environment in a document. -/
def toJson (e : HubEnvironment) : Json := .string e.name

/-- The environment that a document holds. -/
def ofJson? : Json.Decoder HubEnvironment :=
  fun json => (Json.string? json).bind ofName?

end HubEnvironment
end RelyingParty.Config
