import RelyingParty.Assurance
import RelyingParty.Bytes.Base64
import RelyingParty.Config.Logging
import RelyingParty.Config.TrustAnchor
import RelyingParty.Signing.Keys

/-!
# Engine settings

The settings of an engine, their defaults, and which of them can never work: a skew of clocks outside
a day, and refresh delays whose minimum exceeds the maximum.
-/

namespace RelyingParty.Config
set_option autoImplicit false

/-- A trusted key, as base64 of its bytes. -/
structure TrustedKey where
  kid : String
  publicKey : String
deriving DecidableEq

/-- The trusted keys of each role. -/
structure TrustKeys where
  idp : List TrustedKey
  hub : List TrustedKey
deriving DecidableEq

/-- The settings of an engine. -/
structure Settings where
  hubEnvironment : HubEnvironment
  trustAnchor : Option TrustAnchorOverride
  trustKeys : TrustKeys
  /-- The disagreement of clocks that is allowed for, in seconds. -/
  clockSkewSeconds : Int64
  logging : LoggingSettings
  minimumLevel : AssuranceLevel
deriving DecidableEq

/-- What is wrong with a setting. -/
inductive SettingFault where
  | skewNotANumber (raw : String)
  | unknownLevel (raw : String)
  | keyWithoutSeparator (entry : String)
  | negativeSkew
  | excessiveSkew
  | reversedDelays
deriving DecidableEq

/-- What is wrong with the text of a trusted key. -/
inductive TrustedKeyFault where
  | base64 (fault : Bytes.Base64.Fault)
  | key (fault : Signing.KeyFault)
deriving DecidableEq

/-- Why settings are refused. -/
inductive Error where
  | unknownEnvironment (raw : String)
  | invalidValue (fault : SettingFault)
  | invalidKey (kid : String) (fault : TrustedKeyFault)
  | unreadable
deriving DecidableEq

/-- The largest skew allowed, a day in seconds. -/
def maxClockSkewSeconds : Nat := 86400

/-- The name of the setting that a fault is about. -/
def SettingFault.setting : SettingFault → String
  | skewNotANumber _ => "VERIFY_CLOCK_SKEW_SECONDS"
  | unknownLevel _ => "VERIFY_MINIMUM_LEVEL"
  | keyWithoutSeparator _ => "trusted key list"
  | negativeSkew | excessiveSkew => "clock_skew_seconds"
  | reversedDelays => "trust_anchor"

/-- The wording of a fault. -/
def SettingFault.reason : SettingFault → String
  | skewNotANumber raw => "'" ++ raw ++ "' is not a whole number of seconds"
  | unknownLevel raw => AssuranceLevel.unknownName raw
  | keyWithoutSeparator entry => "expected kid=base64, got '" ++ entry ++ "'"
  | negativeSkew => "must not be negative"
  | excessiveSkew => "must not exceed " ++ Text.decimal maxClockSkewSeconds
  | reversedDelays => "minimum refresh delay exceeds maximum"

/-- The wording of a key fault. -/
def TrustedKeyFault.reason : TrustedKeyFault → String
  | base64 fault => "Invalid base64 encoding: " ++ fault.message
  | key fault => fault.message

/-- The wording of an error. -/
def Error.message : Error → String
  | unknownEnvironment raw =>
    "Unrecognised Hub Environment: " ++ raw
      ++ ". Valid values are: PRODUCTION, INTEGRATION, COMPLIANCE_TOOL"
  | invalidValue fault => "Invalid value for " ++ fault.setting ++ ": " ++ fault.reason
  | invalidKey kid fault => "Invalid trusted key '" ++ kid ++ "': " ++ fault.reason
  | unreadable => "Invalid configuration document"

namespace Settings

/-- The settings where none are given. -/
def default : Settings where
  hubEnvironment := .default
  trustAnchor := none
  trustKeys := ⟨[], []⟩
  clockSkewSeconds := 0
  logging := .default
  minimumLevel := .level2

/-- The trust context of the settings. -/
def anchor (s : Settings) : TrustAnchor :=
  .resolve s.trustAnchor s.hubEnvironment

/-- Checks the settings that can never work. -/
def validate (s : Settings) : Except Error Unit :=
  if s.clockSkewSeconds.toInt < 0 then .error (.invalidValue .negativeSkew)
  else if maxClockSkewSeconds < s.clockSkewSeconds.toInt then .error (.invalidValue .excessiveSkew)
  else if s.anchor.refresh.isOrdered then .ok ()
  else .error (.invalidValue .reversedDelays)

end Settings
end RelyingParty.Config
