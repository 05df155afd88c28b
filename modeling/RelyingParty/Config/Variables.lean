import RelyingParty.Config.Basic
import RelyingParty.Text.Blank
import RelyingParty.Text.Split

/-!
# Settings from variables

Settings are also given by environment variables, each on its own; a variable that is not set leaves
its setting at the default. Key lists are entries `kid=base64` with commas between them, and blanks
around any part are ignored.
-/

namespace RelyingParty.Config
set_option autoImplicit false

/-- A key list entry without the blanks around it. -/
def keyOfEntry (entry : List Char) : Except Error TrustedKey :=
  match Text.splitFirst? '=' entry with
  | none => .error (.invalidValue (.keyWithoutSeparator (String.ofList entry)))
  | some (kid, key) =>
    .ok ⟨String.ofList (Text.trimChars kid), String.ofList (Text.trimChars key)⟩

/-- The entries of a key list without the blanks around them, blank ones left out. -/
def keyEntries (raw : String) : List (List Char) :=
  ((Text.splitChars ',' raw.toList).map Text.trimChars).filter fun entry => !entry.isEmpty

/-- The keys of a key list. -/
def keyList (raw : String) : Except Error (List TrustedKey) :=
  (keyEntries raw).mapM keyOfEntry

/-- The setting read from a variable, or its default when the variable is not set. -/
def fromVariable {α : Type} (value : Option String) (default : α)
    (read : String → Except Error α) : Except Error α :=
  match value with
  | none => .ok default
  | some raw => read raw

/-- The environment named by a variable. -/
def environmentOf (raw : String) : Except Error HubEnvironment :=
  match HubEnvironment.ofName? raw with
  | some e => .ok e
  | none => .error (.unknownEnvironment raw)

/-- The skew of clocks written by a variable. -/
def skewOf (raw : String) : Except Error Int64 :=
  match Text.readInteger? (Nat.pow 2 63) raw with
  | some seconds => .ok (Int64.ofInt seconds)
  | none => .error (.invalidValue (.skewNotANumber raw))

/-- The level named by a variable. -/
def levelOf (raw : String) : Except Error AssuranceLevel :=
  match AssuranceLevel.ofName? raw with
  | some level => .ok level
  | none => .error (.invalidValue (.unknownLevel raw))

/-- The explicit trust settings of three variables, enabled when any is set. -/
def overrideOf (metadataUri trustAnchorUri trustStore : Option String) :
    Option TrustAnchorOverride :=
  if metadataUri.isSome ∨ trustAnchorUri.isSome ∨ trustStore.isSome then
    some { TrustAnchorOverride.none with
      metadataSourceUri := metadataUri
      trustAnchorUri
      trustStore
      enabled := true }
  else none

/-- The settings of a lookup of variables. -/
def Settings.ofVariables (lookup : String → Option String) : Except Error Settings := do
  let d := Settings.default
  let environment ←
    fromVariable (lookup "VERIFY_HUB_ENVIRONMENT") d.hubEnvironment environmentOf
  let skew ← fromVariable (lookup "VERIFY_CLOCK_SKEW_SECONDS") d.clockSkewSeconds skewOf
  let level ← fromVariable (lookup "VERIFY_MINIMUM_LEVEL") d.minimumLevel levelOf
  let idp ← fromVariable (lookup "VERIFY_IDP_SIGNING_KEYS") d.trustKeys.idp keyList
  let hub ← fromVariable (lookup "VERIFY_HUB_SIGNING_KEYS") d.trustKeys.hub keyList
  let s : Settings := {
    hubEnvironment := environment
    trustAnchor := overrideOf (lookup "VERIFY_METADATA_URI") (lookup "VERIFY_TRUST_ANCHOR_URI")
      (lookup "VERIFY_TRUST_STORE")
    trustKeys := ⟨idp, hub⟩
    clockSkewSeconds := skew
    logging := { d.logging with level := (lookup "VERIFY_LOG_LEVEL").getD d.logging.level }
    minimumLevel := level }
  s.validate
  return s

end RelyingParty.Config
