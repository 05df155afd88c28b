import RelyingParty.Config.Basic
import RelyingParty.Engine.Service

/-!
# Engines from settings

The trust material of the configured keys, the skew that subjects are checked with, and the service
over both.
-/

namespace RelyingParty.Config
set_option autoImplicit false
open Signing Trust

/-- The public key of a configured key. -/
def TrustedKey.decode (scheme : Scheme) (k : TrustedKey) : Except Error PublicKey :=
  match Bytes.Base64.ofText k.publicKey with
  | .error fault => .error (.invalidKey k.kid (.base64 fault))
  | .ok bytes => (PublicKey.ofBytes scheme k.kid bytes).mapError fun e => .invalidKey k.kid (.key e)

/-- The material with configured keys of a role added in order. -/
def addKeys (scheme : Scheme) (role : SignerRole) : Material → List TrustedKey → Except Error Material
  | m, [] => .ok m
  | m, k :: rest => do
    let key ← k.decode scheme
    addKeys scheme role (m.withKey role key) rest

namespace Settings

/-- The trust material of the configured keys. -/
def material (scheme : Scheme) (s : Settings) : Except Error Material := do
  let m ← addKeys scheme .idp .empty s.trustKeys.idp
  addKeys scheme .hub m s.trustKeys.hub

/-- The skew that subjects are checked with, kept within what is allowed. -/
def clockSkew (s : Settings) : Calendar.Span :=
  .seconds (max 0 (min s.clockSkewSeconds.toInt maxClockSkewSeconds))

/-- The clock that subjects are checked with. -/
def clock (s : Settings) (now : Calendar.Instant) : Confirmation.Clock :=
  ⟨now, s.clockSkew⟩

/-- The service that the settings describe, at a reading of the clock. -/
def service (scheme : Scheme) (s : Settings) (now : Calendar.Instant) : Except Error Service := do
  return .standard (.registry (.new (← s.material scheme))) (s.clock now)

end Settings
end RelyingParty.Config
