import RelyingParty.Config.Json
import RelyingParty.Config.Variables
import RelyingParty.Proofs.Assurance
import RelyingParty.Proofs.Json.Record
import RelyingParty.Proofs.Success

/-!
# Settings read back

Settings are read back from their text as they were, and then validated. Validation accepts a skew of at most
a day and refresh delays in order, where the delays that are not set have their defaults. Settings loaded
from variables were validated before, so their text is accepted too.
-/

namespace RelyingParty
set_option autoImplicit false

namespace Json

theorem uint64?_int (n : UInt64) : uint64? (.int n.toNat) = some n := by
  have small : n.toNat < Nat.pow 2 64 := n.toNat_lt
  have read : natural? (Nat.pow 2 64) (.int n.toNat) = some n.toNat := if_pos small
  rw [uint64?, read, Option.map_some, UInt64.ofNat_toNat]

theorem int64?_int (i : Int64) : int64? (.int i.toInt) = some i := by
  have low : -(Nat.pow 2 63 : Nat) ≤ i.toInt := i.le_toInt
  have high : i.toInt < (Nat.pow 2 63 : Nat) := i.toInt_lt
  have read : integer? (Nat.pow 2 63) (.int i.toInt) = some i.toInt := if_pos ⟨low, high⟩
  rw [int64?, read, Option.map_some, Int64.ofInt_toInt]

theorem int_ne_null (i : Int) : Json.int i ≠ .null := nofun

theorem regular_uint64 (n : UInt64) : Regular (.int n.toNat) := by
  have small : n.toNat < 2 ^ 64 := n.toNat_lt
  rw [Regular]
  omega

theorem regular_int64 (i : Int64) : Regular (.int i.toInt) := by
  have low := i.le_toInt
  have high := i.toInt_lt
  rw [Regular]
  omega

end Json

namespace Config

/-! ## Parts of settings -/

theorem HubEnvironment.ofJson?_toJson (e : HubEnvironment) : ofJson? e.toJson = some e := by
  cases e <;> decide

namespace TrustAnchorOverride

/-- The members of explicit settings. -/
def members (o : TrustAnchorOverride) : List (String × Json) :=
  [("trustAnchorUri", Json.orNull .string o.trustAnchorUri),
    ("metadataSourceUri", Json.orNull .string o.metadataSourceUri),
    ("trustStore", Json.orNull .string o.trustStore),
    ("minRefreshDelay", Json.orNull (fun n => .int n.toNat) o.minRefreshDelay),
    ("maxRefreshDelay", Json.orNull (fun n => .int n.toNat) o.maxRefreshDelay),
    ("trustAnchorMinRefreshDelay", Json.orNull (fun n => .int n.toNat) o.trustAnchorMinRefreshDelay),
    ("trustAnchorMaxRefreshDelay", Json.orNull (fun n => .int n.toNat) o.trustAnchorMaxRefreshDelay),
    ("hubConnectorEntityId", Json.orNull .string o.hubConnectorEntityId),
    ("enabled", .bool o.enabled)]

theorem toJson_eq (o : TrustAnchorOverride) : o.toJson = .object o.members := rfl

theorem ofJson?_toJson (o : TrustAnchorOverride) : ofJson? o.toJson = some o := by
  have order : Json.InOrder o.members
      ["trustAnchorUri", "metadataSourceUri", "trustStore", "minRefreshDelay", "maxRefreshDelay",
        "trustAnchorMinRefreshDelay", "trustAnchorMaxRefreshDelay", "hubConnectorEntityId", "enabled"] :=
    List.Sublist.refl _
  obtain ⟨r, record, fields⟩ := Json.Record.ofJson?_object order (by decide)
  have text (name : String) (value : Option String)
      (found : o.members.lookup name = some (Json.orNull .string value)) :
      r.optional name Json.string? = some value :=
    (fields.optional_orNull found Json.string?_string Json.string_ne_null).1
  have delay (name : String) (value : Option UInt64)
      (found : o.members.lookup name = some (Json.orNull (fun n => .int n.toNat) value)) :
      r.optional name Json.uint64? = some value :=
    (fields.optional_orNull found Json.uint64?_int fun n => Json.int_ne_null n.toNat).1
  have anchorUri := text "trustAnchorUri" o.trustAnchorUri rfl
  have metadata := text "metadataSourceUri" o.metadataSourceUri rfl
  have store := text "trustStore" o.trustStore rfl
  have least := delay "minRefreshDelay" o.minRefreshDelay rfl
  have most := delay "maxRefreshDelay" o.maxRefreshDelay rfl
  have anchorLeast := delay "trustAnchorMinRefreshDelay" o.trustAnchorMinRefreshDelay rfl
  have anchorMost := delay "trustAnchorMaxRefreshDelay" o.trustAnchorMaxRefreshDelay rfl
  have connector := text "hubConnectorEntityId" o.hubConnectorEntityId rfl
  have enabled : r.required "enabled" Json.bool? = some o.enabled :=
    fields.required rfl (Json.bool?_bool _)
  simp only [ofJson?, toJson_eq, record, Option.bind_eq_bind, Option.bind_some, anchorUri, metadata,
    store, least, most, anchorLeast, anchorMost, connector, enabled]
  rfl

theorem toJson_ne_null (o : TrustAnchorOverride) : o.toJson ≠ .null := nofun

theorem regular_toJson (o : TrustAnchorOverride) : o.toJson.Regular := by
  have text (value : Option String) := Json.regular_orNull value Json.regular_string
  have delay (value : Option UInt64) := Json.regular_orNull value Json.regular_uint64
  simp only [toJson_eq, members, Json.regular_object, List.forall_mem_cons]
  exact ⟨text _, text _, text _, delay _, delay _, delay _, delay _, text _, Json.regular_bool _,
    List.forall_mem_nil _⟩

end TrustAnchorOverride

namespace TrustedKey

theorem ofJson?_toJson (k : TrustedKey) : ofJson? k.toJson = some k := by
  have order : Json.InOrder [("kid", .string k.kid), ("public_key", .string k.publicKey)]
      ["kid", "public_key"] := List.Sublist.refl _
  obtain ⟨r, record, fields⟩ := Json.Record.ofJson?_object order (by decide)
  have kid : r.required "kid" Json.string? = some k.kid := fields.required rfl (Json.string?_string _)
  have publicKey : r.required "public_key" Json.string? = some k.publicKey :=
    fields.required rfl (Json.string?_string _)
  simp only [ofJson?, toJson, record, Option.bind_eq_bind, Option.bind_some, kid, publicKey]
  rfl

theorem regular_toJson (k : TrustedKey) : k.toJson.Regular := by
  simp [toJson]

end TrustedKey

namespace TrustKeys

theorem ofJson?_toJson (k : TrustKeys) : ofJson? k.toJson = some k := by
  have order : Json.InOrder [("idp", .array (k.idp.map TrustedKey.toJson)),
      ("hub", .array (k.hub.map TrustedKey.toJson))] ["idp", "hub"] := List.Sublist.refl _
  obtain ⟨r, record, fields⟩ := Json.Record.ofJson?_object order (by decide)
  have keys (name : String) (list : List TrustedKey)
      (found : List.lookup name [("idp", Json.array (k.idp.map TrustedKey.toJson)),
        ("hub", .array (k.hub.map TrustedKey.toJson))] = some (.array (list.map TrustedKey.toJson))) :
      r.withDefault name (Json.list? TrustedKey.ofJson?) [] = some list :=
    fields.withDefault found (Json.list?_map TrustedKey.ofJson?_toJson list)
  have idp := keys "idp" k.idp rfl
  have hub := keys "hub" k.hub rfl
  simp only [ofJson?, toJson, record, Option.bind_eq_bind, Option.bind_some, idp, hub]
  rfl

theorem regular_toJson (k : TrustKeys) : k.toJson.Regular := by
  simp only [toJson, Json.regular_object, List.forall_mem_cons, Json.regular_array, List.forall_mem_map]
  exact ⟨fun k _ => k.regular_toJson, fun k _ => k.regular_toJson, List.forall_mem_nil _⟩

end TrustKeys

theorem skewOfJson?_skewToJson (seconds : Int64) : skewOfJson? (skewToJson seconds) = some seconds := by
  have order : Json.InOrder [("clock_skew_seconds", .int seconds.toInt)] ["clock_skew_seconds"] :=
    Json.inOrder_single _ _
  obtain ⟨r, record, fields⟩ := Json.Record.ofJson?_object order (by decide)
  have read : r.withDefault "clock_skew_seconds" Json.int64? 0 = some seconds :=
    fields.withDefault rfl (Json.int64?_int seconds)
  simp only [skewOfJson?, skewToJson, record, Option.bind_eq_bind, Option.bind_some, read]

theorem regular_skewToJson (seconds : Int64) : (skewToJson seconds).Regular := by
  rw [skewToJson, Json.regular_object, List.forall_mem_singleton]
  exact Json.regular_int64 seconds

namespace LoggingSettings

theorem ofJson?_toJson (s : LoggingSettings) : ofJson? s.toJson = some s := by
  have order : Json.InOrder [("level", .string s.level), ("with_target", .bool s.withTarget),
      ("with_thread_ids", .bool s.withThreadIds)] ["level", "with_target", "with_thread_ids"] :=
    List.Sublist.refl _
  obtain ⟨r, record, fields⟩ := Json.Record.ofJson?_object order (by decide)
  have level : r.withDefault "level" Json.string? default.level = some s.level :=
    fields.withDefault rfl (Json.string?_string _)
  have target : r.withDefault "with_target" Json.bool? default.withTarget = some s.withTarget :=
    fields.withDefault rfl (Json.bool?_bool _)
  have threads : r.withDefault "with_thread_ids" Json.bool? default.withThreadIds = some s.withThreadIds :=
    fields.withDefault rfl (Json.bool?_bool _)
  simp only [ofJson?, toJson, record, Option.bind_eq_bind, Option.bind_some, level, target, threads]
  rfl

theorem regular_toJson (s : LoggingSettings) : s.toJson.Regular := by
  simp [toJson]

end LoggingSettings

/-! ## Whole settings -/

namespace Settings

/-- The members of settings. -/
def members (s : Settings) : List (String × Json) :=
  [("hub_environment", s.hubEnvironment.toJson),
    ("trust_anchor", Json.orNull TrustAnchorOverride.toJson s.trustAnchor),
    ("trust_keys", s.trustKeys.toJson),
    ("subject", skewToJson s.clockSkewSeconds),
    ("logging", s.logging.toJson),
    ("minimum_level", s.minimumLevel.toJson)]

theorem toJson_eq (s : Settings) : s.toJson = .object s.members := rfl

theorem ofJson?_toJson (s : Settings) : ofJson? s.toJson = some s := by
  have order : Json.InOrder s.members
      ["hub_environment", "trust_anchor", "trust_keys", "subject", "logging", "minimum_level"] :=
    List.Sublist.refl _
  obtain ⟨r, record, fields⟩ := Json.Record.ofJson?_object order (by decide)
  have environment : r.withDefault "hub_environment" HubEnvironment.ofJson? default.hubEnvironment =
      some s.hubEnvironment :=
    fields.withDefault rfl (HubEnvironment.ofJson?_toJson _)
  have anchor : r.optionalWithDefault "trust_anchor" TrustAnchorOverride.ofJson? = some s.trustAnchor :=
    (fields.optional_orNull rfl TrustAnchorOverride.ofJson?_toJson TrustAnchorOverride.toJson_ne_null).2
  have keys : r.withDefault "trust_keys" TrustKeys.ofJson? default.trustKeys = some s.trustKeys :=
    fields.withDefault rfl (TrustKeys.ofJson?_toJson _)
  have skew : r.withDefault "subject" skewOfJson? default.clockSkewSeconds = some s.clockSkewSeconds :=
    fields.withDefault rfl (skewOfJson?_skewToJson _)
  have logging : r.withDefault "logging" LoggingSettings.ofJson? default.logging = some s.logging :=
    fields.withDefault rfl (LoggingSettings.ofJson?_toJson _)
  have level : r.withDefault "minimum_level" AssuranceLevel.ofJson? default.minimumLevel =
      some s.minimumLevel :=
    fields.withDefault rfl (AssuranceLevel.ofJson?_toJson _)
  simp only [ofJson?, toJson_eq, record, Option.bind_eq_bind, Option.bind_some, environment, anchor,
    keys, skew, logging, level]
  rfl

theorem regular_toJson (s : Settings) : s.toJson.Regular := by
  have anchor := Json.regular_orNull s.trustAnchor TrustAnchorOverride.regular_toJson
  simp only [toJson_eq, members, Json.regular_object, List.forall_mem_cons]
  exact ⟨Json.regular_string _, anchor, s.trustKeys.regular_toJson, regular_skewToJson _,
    s.logging.regular_toJson, Json.regular_string _, List.forall_mem_nil _⟩

/-- The text of settings is read as these settings, and fails in no other way than their validation. -/
theorem ofText_text (s : Settings) : ofText s.text = s.validate.map fun _ => s := by
  have document : Json.ofText? s.text = some s.toJson := Json.ofText?_text s.toJson s.regular_toJson
  have read : Json.decodeText? ofJson? s.text = some s := by
    rw [Json.decodeText?, document, Option.bind_some, ofJson?_toJson]
  rw [ofText, read]

/-- The refresh delays that count, in milliseconds, are in order. -/
structure DelaysInOrder (o : TrustAnchorOverride) : Prop where
  metadata : (o.minRefreshDelay.getD 60000).toNat ≤ (o.maxRefreshDelay.getD 600000).toNat
  trustAnchor :
    (o.trustAnchorMinRefreshDelay.getD 60000).toNat ≤ (o.trustAnchorMaxRefreshDelay.getD 3600000).toNat

theorem validate_eq_ok_iff {s : Settings} :
    s.validate = .ok () ↔
      (0 ≤ s.clockSkewSeconds.toInt ∧ s.clockSkewSeconds.toInt ≤ 86400) ∧
        DelaysInOrder (s.trustAnchor.getD .none) := by
  have delays : s.anchor.refresh.isOrdered = true ↔ DelaysInOrder (s.trustAnchor.getD .none) := by
    rw [RefreshDelays.isOrdered, Bool.and_eq_true, decide_eq_true_eq, decide_eq_true_eq]
    exact ⟨fun h => ⟨h.1, h.2⟩, fun h => ⟨h.1, h.2⟩⟩
  rw [validate, error_else_eq_ok_iff, error_else_eq_ok_iff, Int.not_lt, Int.not_lt, ← delays, and_assoc]
  refine and_congr Iff.rfl (and_congr Iff.rfl ?_)
  cases s.anchor.refresh.isOrdered with
  | true => exact iff_of_true rfl rfl
  | false => exact iff_of_false nofun nofun

/-- Settings are loaded from variables only after they were validated. -/
theorem validate_of_ofVariables {lookup : String → Option String} {s : Settings}
    (loaded : ofVariables lookup = .ok s) : s.validate = .ok () := by
  simp only [ofVariables, bind_eq_ok_iff, exists_unit_iff] at loaded
  obtain ⟨environment, -, skew, -, level, -, idp, -, hub, -, valid, answer⟩ := loaded
  obtain rfl := Except.ok.inj answer
  exact valid

/-- Settings are loaded from a document only after they were validated. -/
theorem validate_of_ofText {text : String} {s : Settings} (loaded : ofText text = .ok s) :
    s.validate = .ok () := by
  unfold ofText at loaded
  split at loaded
  · cases loaded
  · obtain ⟨_, valid, same⟩ := map_eq_ok_iff.1 loaded
    exact same ▸ valid

end Settings

/-- **Settings are read back from their text**, or refused with the error that their validation gives.
Validation accepts exactly the skews of at most a day with refresh delays in order. So what is loaded from
variables is accepted unchanged from its text. -/
theorem settings_read_back :
    (∀ s : Settings, Settings.ofText s.text = s.validate.map fun _ => s) ∧
      (∀ s : Settings, s.validate = .ok () ↔
        (0 ≤ s.clockSkewSeconds.toInt ∧ s.clockSkewSeconds.toInt ≤ 86400) ∧
          Settings.DelaysInOrder (s.trustAnchor.getD .none)) ∧
      ∀ lookup s, Settings.ofVariables lookup = .ok s → Settings.ofText s.text = .ok s := by
  refine ⟨Settings.ofText_text, fun _ => Settings.validate_eq_ok_iff, ?_⟩
  intro lookup s loaded
  rw [Settings.ofText_text, Settings.validate_of_ofVariables loaded]
  rfl

namespace Sample

/-- Variables that set a little of everything. -/
def lookup : String → Option String
  | "VERIFY_HUB_ENVIRONMENT" => some "PRODUCTION"
  | "VERIFY_TRUST_STORE" => some "store.ts"
  | "VERIFY_CLOCK_SKEW_SECONDS" => some "+86400"
  | "VERIFY_MINIMUM_LEVEL" => some "level_3"
  | "VERIFY_IDP_SIGNING_KEYS" => some " idp-1 = AAAA=, ,idp-2=BBBB"
  | _ => none

/-- The settings that they make. -/
def settings : Settings where
  hubEnvironment := .production
  trustAnchor := some { TrustAnchorOverride.none with trustStore := some "store.ts", enabled := true }
  trustKeys := ⟨[⟨"idp-1", "AAAA="⟩, ⟨"idp-2", "BBBB"⟩], []⟩
  clockSkewSeconds := 86400
  logging := .default
  minimumLevel := .level3

end Sample

theorem settings_read_back_sample :
    Settings.ofVariables Sample.lookup = .ok Sample.settings ∧
      Settings.ofText Sample.settings.text = .ok Sample.settings := by
  have loaded : Settings.ofVariables Sample.lookup = .ok Sample.settings := by decide +kernel
  exact ⟨loaded, settings_read_back.2.2 _ _ loaded⟩

end Config
end RelyingParty
