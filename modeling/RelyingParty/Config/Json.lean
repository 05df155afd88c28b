import RelyingParty.Config.Basic
import RelyingParty.Json.Printer
import RelyingParty.Json.Reader

/-!
# Settings as documents

Every setting may be left out of a document, and counts as its default. Settings are validated after
they are read.
-/

namespace RelyingParty.Config
set_option autoImplicit false

namespace TrustedKey

/-- A trusted key in a document. -/
def toJson (k : TrustedKey) : Json :=
  .object [("kid", .string k.kid), ("public_key", .string k.publicKey)]

/-- The trusted key that a document holds. -/
def ofJson? : Json.Decoder TrustedKey := fun json => do
  let r ← Json.Record.ofJson? ["kid", "public_key"] json
  return {
    kid := ← r.required "kid" Json.string?
    publicKey := ← r.required "public_key" Json.string? }

end TrustedKey

namespace TrustKeys

/-- Trusted keys in a document. -/
def toJson (k : TrustKeys) : Json :=
  .object [
    ("idp", .array (k.idp.map TrustedKey.toJson)),
    ("hub", .array (k.hub.map TrustedKey.toJson))]

/-- The trusted keys that a document holds. -/
def ofJson? : Json.Decoder TrustKeys := fun json => do
  let r ← Json.Record.ofJson? ["idp", "hub"] json
  return {
    idp := ← r.withDefault "idp" (Json.list? TrustedKey.ofJson?) []
    hub := ← r.withDefault "hub" (Json.list? TrustedKey.ofJson?) [] }

end TrustKeys

/-- The settings about subjects in a document: the skew of clocks. -/
def skewToJson (seconds : Int64) : Json :=
  .object [("clock_skew_seconds", .int seconds.toInt)]

/-- The skew of clocks that a document holds. -/
def skewOfJson? : Json.Decoder Int64 := fun json => do
  let r ← Json.Record.ofJson? ["clock_skew_seconds"] json
  r.withDefault "clock_skew_seconds" Json.int64? 0

namespace Settings

/-- Settings in a document. -/
def toJson (s : Settings) : Json :=
  .object [
    ("hub_environment", s.hubEnvironment.toJson),
    ("trust_anchor", Json.orNull TrustAnchorOverride.toJson s.trustAnchor),
    ("trust_keys", s.trustKeys.toJson),
    ("subject", skewToJson s.clockSkewSeconds),
    ("logging", s.logging.toJson),
    ("minimum_level", s.minimumLevel.toJson)]

/-- The settings that a document holds. -/
def ofJson? : Json.Decoder Settings := fun json => do
  let r ← Json.Record.ofJson?
    ["hub_environment", "trust_anchor", "trust_keys", "subject", "logging", "minimum_level"] json
  return {
    hubEnvironment :=
      ← r.withDefault "hub_environment" HubEnvironment.ofJson? default.hubEnvironment
    trustAnchor := ← r.optionalWithDefault "trust_anchor" TrustAnchorOverride.ofJson?
    trustKeys := ← r.withDefault "trust_keys" TrustKeys.ofJson? default.trustKeys
    clockSkewSeconds := ← r.withDefault "subject" skewOfJson? default.clockSkewSeconds
    logging := ← r.withDefault "logging" LoggingSettings.ofJson? default.logging
    minimumLevel := ← r.withDefault "minimum_level" AssuranceLevel.ofJson? default.minimumLevel }

/-- The text of the document of settings. -/
def text (s : Settings) : String := s.toJson.text

/-- The settings that the text of a document holds. -/
def ofText (text : String) : Except Error Settings :=
  match Json.decodeText? ofJson? text with
  | none => .error .unreadable
  | some s => s.validate.map fun _ => s

end Settings
end RelyingParty.Config
