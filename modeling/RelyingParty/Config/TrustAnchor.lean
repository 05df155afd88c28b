import RelyingParty.Config.Environment

/-!
# Trust anchors

The trust context of an environment, with explicit settings taking precedence over its defaults field
by field. Delays are in milliseconds.
-/

namespace RelyingParty.Config
set_option autoImplicit false

/-- Explicit settings of the trust context. -/
structure TrustAnchorOverride where
  trustAnchorUri : Option String
  metadataSourceUri : Option String
  trustStore : Option String
  minRefreshDelay : Option UInt64
  maxRefreshDelay : Option UInt64
  trustAnchorMinRefreshDelay : Option UInt64
  trustAnchorMaxRefreshDelay : Option UInt64
  hubConnectorEntityId : Option String
  enabled : Bool
deriving DecidableEq

/-- How often the metadata and the trust anchor may be fetched again. -/
structure RefreshDelays where
  metadataMin : UInt64
  metadataMax : UInt64
  trustAnchorMin : UInt64
  trustAnchorMax : UInt64
deriving DecidableEq

/-- A trust context. -/
structure TrustAnchor where
  environment : HubEnvironment
  ssoLocation : String
  metadataSourceUri : String
  trustAnchorUri : Option String
  trustStore : String
  hubTrustStore : String
  idpTrustStore : String
  refresh : RefreshDelays
  hubConnectorEntityId : Option String
  enabled : Bool
deriving DecidableEq

namespace RefreshDelays

/-- The delays where none are set. -/
def default : RefreshDelays := ⟨60000, 600000, 60000, 3600000⟩

/-- Whether neither minimum exceeds its maximum. -/
def isOrdered (d : RefreshDelays) : Bool :=
  decide (d.metadataMin ≤ d.metadataMax) && decide (d.trustAnchorMin ≤ d.trustAnchorMax)

end RefreshDelays

namespace TrustAnchorOverride

/-- No explicit setting. -/
def none : TrustAnchorOverride :=
  ⟨.none, .none, .none, .none, .none, .none, .none, .none, false⟩

/-- Explicit settings in a document. -/
def toJson (o : TrustAnchorOverride) : Json :=
  let delay : Option UInt64 → Json := Json.orNull fun n => .int n.toNat
  .object [
    ("trustAnchorUri", Json.orNull .string o.trustAnchorUri),
    ("metadataSourceUri", Json.orNull .string o.metadataSourceUri),
    ("trustStore", Json.orNull .string o.trustStore),
    ("minRefreshDelay", delay o.minRefreshDelay),
    ("maxRefreshDelay", delay o.maxRefreshDelay),
    ("trustAnchorMinRefreshDelay", delay o.trustAnchorMinRefreshDelay),
    ("trustAnchorMaxRefreshDelay", delay o.trustAnchorMaxRefreshDelay),
    ("hubConnectorEntityId", Json.orNull .string o.hubConnectorEntityId),
    ("enabled", .bool o.enabled)]

/-- The explicit settings that a document holds. -/
def ofJson? : Json.Decoder TrustAnchorOverride := fun json => do
  let r ← Json.Record.ofJson?
    ["trustAnchorUri", "metadataSourceUri", "trustStore", "minRefreshDelay", "maxRefreshDelay",
     "trustAnchorMinRefreshDelay", "trustAnchorMaxRefreshDelay", "hubConnectorEntityId",
     "enabled"] json
  return {
    trustAnchorUri := ← r.optional "trustAnchorUri" Json.string?
    metadataSourceUri := ← r.optional "metadataSourceUri" Json.string?
    trustStore := ← r.optional "trustStore" Json.string?
    minRefreshDelay := ← r.optional "minRefreshDelay" Json.uint64?
    maxRefreshDelay := ← r.optional "maxRefreshDelay" Json.uint64?
    trustAnchorMinRefreshDelay := ← r.optional "trustAnchorMinRefreshDelay" Json.uint64?
    trustAnchorMaxRefreshDelay := ← r.optional "trustAnchorMaxRefreshDelay" Json.uint64?
    hubConnectorEntityId := ← r.optional "hubConnectorEntityId" Json.string?
    enabled := ← r.required "enabled" Json.bool? }

end TrustAnchorOverride

namespace TrustAnchor

/-- The trust context of an environment under explicit settings, if there are any. -/
def resolve (override : Option TrustAnchorOverride) (e : HubEnvironment) : TrustAnchor :=
  let o := override.getD .none
  let stores := e.trustStores
  let delays := RefreshDelays.default
  { environment := e
    ssoLocation := e.ssoLocation
    metadataSourceUri := o.metadataSourceUri.getD e.metadataUri
    trustAnchorUri := o.trustAnchorUri.or e.trustAnchorUri
    trustStore := o.trustStore.getD stores.metadata
    hubTrustStore := stores.hub
    idpTrustStore := stores.idp
    refresh := {
      metadataMin := o.minRefreshDelay.getD delays.metadataMin
      metadataMax := o.maxRefreshDelay.getD delays.metadataMax
      trustAnchorMin := o.trustAnchorMinRefreshDelay.getD delays.trustAnchorMin
      trustAnchorMax := o.trustAnchorMaxRefreshDelay.getD delays.trustAnchorMax }
    hubConnectorEntityId := o.hubConnectorEntityId
    enabled := o.enabled }

end TrustAnchor
end RelyingParty.Config
