import RelyingParty.Proofs.Assurance
import RelyingParty.Proofs.Config.KeyList
import RelyingParty.Proofs.Config.ReadBack

/-!
# Settings that follow variables

Each section of the settings follows its own variables and keeps its default where these are not set. Refresh
delays have no variable, so they always have their defaults.
-/

namespace RelyingParty.Config
set_option autoImplicit false
open Text Trust

/-! ## Single variables -/

/-- A setting is what the value of its variable states, or the default when the variable is not set. -/
def Stated {α : Type} (value : Option String) (default : α) (states : String → α → Prop) (a : α) : Prop :=
  match value with
  | none => a = default
  | some raw => states raw a

section
variable {α : Type} {value : Option String} {default a : α} {read : String → Except Error α}
  {states : String → α → Prop} {raw : String}

theorem fromVariable_eq_ok_iff (readable : ∀ raw a, read raw = .ok a ↔ states raw a) :
    fromVariable value default read = .ok a ↔ Stated value default states a := by
  cases value with
  | none => exact Except.ok.injEq default a ▸ eq_comm
  | some raw => exact readable raw a

/-- A variable can be followed when its value can. -/
theorem exists_stated_iff :
    (∃ a, Stated value default states a) ↔ ∀ raw, value = some raw → ∃ a, states raw a := by
  cases value with
  | none => exact iff_of_true ⟨default, rfl⟩ nofun
  | some raw =>
    constructor
    · rintro found _ ⟨⟩
      exact found
    · intro found
      exact found raw rfl

/-- A limit that the default keeps is a limit on the value alone. -/
theorem stated_and_iff {within : α → Prop} (kept : within default) :
    Stated value default states a ∧ within a ↔ Stated value default (fun raw a => states raw a ∧ within a) a := by
  cases value with
  | none => exact and_iff_left_of_imp fun same => same ▸ kept
  | some raw => exact Iff.rfl

theorem environmentOf_eq_ok_iff {e : HubEnvironment} : environmentOf raw = .ok e ↔ raw = e.name := by
  have named : HubEnvironment.ofName? raw = some e ↔ e.name = raw :=
    find?_name_eq_some_iff fun e => by cases e <;> rfl
  rw [eq_comm (a := raw), ← named, environmentOf]
  cases HubEnvironment.ofName? raw with
  | none => exact iff_of_false nofun nofun
  | some other => rw [Except.ok.injEq, Option.some.injEq]

theorem skewOf_eq_ok_iff {seconds : Int64} :
    skewOf raw = .ok seconds ↔ SpellsInteger raw.toList seconds.toInt := by
  have low : -(Nat.pow 2 63 : Nat) ≤ seconds.toInt := seconds.le_toInt
  have high : seconds.toInt < (Nat.pow 2 63 : Nat) := seconds.toInt_lt
  unfold skewOf
  constructor
  · intro known
    split at known
    · next i read =>
      obtain rfl := Except.ok.inj known
      obtain ⟨spells, least, most⟩ := readInteger?_eq_some_iff.1 read
      rwa [Int64.toInt_ofInt_of_le least most]
    · cases known
  · intro spells
    rw [readInteger?_eq_some_iff.2 ⟨spells, low, high⟩]
    exact congrArg Except.ok (Int64.ofInt_toInt seconds)

/-- A text writes one skew. -/
theorem skew_unique {m n : Int64} (spells : SpellsInteger raw.toList m.toInt)
    (spells' : SpellsInteger raw.toList n.toInt) : m = n := by
  rw [← skewOf_eq_ok_iff] at spells spells'
  rw [spells'] at spells
  exact (Except.ok.inj spells).symm

theorem levelOf_eq_ok_iff {level : AssuranceLevel} :
    levelOf raw = .ok level ↔ lowerAscii raw = lowerAscii level.name := by
  rw [← AssuranceLevel.ofName?_eq_some_iff, levelOf]
  cases AssuranceLevel.ofName? raw with
  | none => exact iff_of_false nofun nofun
  | some l => rw [Except.ok.injEq, Option.some.injEq]

end

/-! ## Sections of the settings -/

/-- The variable with the keys of a role. -/
def keysVariable : SignerRole → String
  | .idp => "VERIFY_IDP_SIGNING_KEYS"
  | .hub => "VERIFY_HUB_SIGNING_KEYS"

/-- The keys that a key list states, entry by entry. -/
def StatesKeys (raw : String) (keys : List TrustedKey) : Prop :=
  (∀ k ∈ keys, k.Listable) ∧ Lists (raw.toList.splitOn ',') keys

/-- The variables with explicit trust settings. -/
def anchorVariables : List String := ["VERIFY_METADATA_URI", "VERIFY_TRUST_ANCHOR_URI", "VERIFY_TRUST_STORE"]

/-- Explicit trust settings are there, and enabled, when one of their variables is set, and are nothing but the
values of these. -/
inductive Overridden (lookup : String → Option String) : Option TrustAnchorOverride → Prop where
  | unset (each : ∀ name ∈ anchorVariables, lookup name = none) : Overridden lookup none
  | set (given : ∃ name ∈ anchorVariables, lookup name ≠ none) :
    Overridden lookup (some {
      metadataSourceUri := lookup "VERIFY_METADATA_URI"
      trustAnchorUri := lookup "VERIFY_TRUST_ANCHOR_URI"
      trustStore := lookup "VERIFY_TRUST_STORE"
      minRefreshDelay := none
      maxRefreshDelay := none
      trustAnchorMinRefreshDelay := none
      trustAnchorMaxRefreshDelay := none
      hubConnectorEntityId := none
      enabled := true })

/-- Settings that follow a lookup of variables, each section its own. -/
structure Settings.Follows (s : Settings) (lookup : String → Option String) : Prop where
  environment : Stated (lookup "VERIFY_HUB_ENVIRONMENT") .complianceTool (fun raw e => raw = e.name) s.hubEnvironment
  trustAnchor : Overridden lookup s.trustAnchor
  keys : ∀ role, Stated (lookup (keysVariable role)) [] StatesKeys (s.trustKeys.of role)
  skew : Stated (lookup "VERIFY_CLOCK_SKEW_SECONDS") 0 (fun raw n => SpellsInteger raw.toList n.toInt)
    s.clockSkewSeconds
  logging : s.logging = ⟨(lookup "VERIFY_LOG_LEVEL").getD "info", true, true⟩
  level : Stated (lookup "VERIFY_MINIMUM_LEVEL") .level2 (fun raw l => lowerAscii raw = lowerAscii l.name)
    s.minimumLevel

/-- A skew of at most a day, in seconds. -/
def WithinDay (seconds : Int64) : Prop := 0 ≤ seconds.toInt ∧ seconds.toInt ≤ 86400

/-- Variables that settings can be loaded from. -/
structure Loadable (lookup : String → Option String) : Prop where
  environment : ∀ raw, lookup "VERIFY_HUB_ENVIRONMENT" = some raw → ∃ e : HubEnvironment, raw = e.name
  skew : ∀ raw, lookup "VERIFY_CLOCK_SKEW_SECONDS" = some raw →
    ∃ seconds : Int64, SpellsInteger raw.toList seconds.toInt ∧ WithinDay seconds
  level : ∀ raw, lookup "VERIFY_MINIMUM_LEVEL" = some raw →
    ∃ level : AssuranceLevel, lowerAscii raw = lowerAscii level.name
  keys : ∀ role raw, lookup (keysVariable role) = some raw →
    ∀ entry ∈ raw.toList.splitOn ',', ¬Blank entry → '=' ∈ entry

section
variable {lookup : String → Option String} {s : Settings}

theorem overridden_iff {o : Option TrustAnchorOverride} : Overridden lookup o ↔
    o = overrideOf (lookup "VERIFY_METADATA_URI") (lookup "VERIFY_TRUST_ANCHOR_URI")
      (lookup "VERIFY_TRUST_STORE") := by
  have any : (lookup "VERIFY_METADATA_URI").isSome = true ∨ (lookup "VERIFY_TRUST_ANCHOR_URI").isSome = true ∨
      (lookup "VERIFY_TRUST_STORE").isSome = true ↔ ∃ name ∈ anchorVariables, lookup name ≠ none := by
    simp [anchorVariables, Option.isSome_iff_ne_none]
  rw [overrideOf]
  constructor
  · intro overridden
    cases overridden with
    | unset each => exact (if_neg (any.not.2 fun ⟨name, member, given⟩ => given (each name member))).symm
    | set given => exact (if_pos (any.2 given)).symm
  · rintro rfl
    split
    · next given => exact .set (any.1 given)
    · next absent =>
      refine .unset fun name member => ?_
      by_contra given
      exact absent (any.2 ⟨name, member, given⟩)

/-- Refresh delays have no variable. -/
theorem Overridden.refresh {o : Option TrustAnchorOverride} (overridden : Overridden lookup o)
    (e : HubEnvironment) : (TrustAnchor.resolve o e).refresh = .default := by
  cases overridden <;> rfl

theorem Overridden.delaysInOrder {o : Option TrustAnchorOverride} (overridden : Overridden lookup o) :
    Settings.DelaysInOrder (o.getD .none) := by
  have defaults : Settings.DelaysInOrder .none := ⟨by decide, by decide⟩
  cases overridden with
  | unset each => exact defaults
  | set given => exact ⟨defaults.metadata, defaults.trustAnchor⟩

/-- The variables give settings that follow them, if the skew is within a day. -/
theorem ofVariables_eq_ok_iff :
    Settings.ofVariables lookup = .ok s ↔ s.Follows lookup ∧ WithinDay s.clockSkewSeconds := by
  simp only [Settings.ofVariables, bind_eq_ok_iff, exists_unit_iff, Settings.validate_eq_ok_iff,
    fromVariable_eq_ok_iff fun _ _ => environmentOf_eq_ok_iff, fromVariable_eq_ok_iff fun _ _ => skewOf_eq_ok_iff,
    fromVariable_eq_ok_iff fun _ _ => levelOf_eq_ok_iff, fromVariable_eq_ok_iff fun _ _ => keyList_eq_ok_iff]
  constructor
  · rintro ⟨environment, named, skew, spelled, level, leveled, idp, listed, hub, listed', ⟨range, -⟩, made⟩
    obtain rfl := Except.ok.inj made
    refine ⟨⟨named, overridden_iff.2 rfl, ?_, spelled, rfl, leveled⟩, range⟩
    rintro (_ | _)
    · exact listed
    · exact listed'
  · rintro ⟨follows, range⟩
    refine ⟨_, follows.environment, _, follows.skew, _, follows.level, _, follows.keys .idp, _, follows.keys .hub,
      ?_⟩
    have made : s = ⟨s.hubEnvironment, overrideOf (lookup "VERIFY_METADATA_URI")
        (lookup "VERIFY_TRUST_ANCHOR_URI") (lookup "VERIFY_TRUST_STORE"), ⟨s.trustKeys.idp, s.trustKeys.hub⟩,
        s.clockSkewSeconds, ⟨(lookup "VERIFY_LOG_LEVEL").getD "info", true, true⟩, s.minimumLevel⟩ := by
      rw [← overridden_iff.1 follows.trustAnchor, ← follows.logging]
    exact ⟨⟨range, overridden_iff.2 rfl |>.delaysInOrder⟩, congrArg Except.ok made.symm⟩

/-- Settings that follow such variables have a skew within a day. -/
theorem Loadable.withinDay (loadable : Loadable lookup) (follows : s.Follows lookup) :
    WithinDay s.clockSkewSeconds := by
  have skew := follows.skew
  cases set : lookup "VERIFY_CLOCK_SKEW_SECONDS" with
  | none =>
    rw [set] at skew
    exact skew ▸ ⟨by decide, by decide⟩
  | some raw =>
    rw [set] at skew
    obtain ⟨seconds, spells, within⟩ := loadable.skew raw set
    exact skew_unique spells skew ▸ within

/-- Settings are loaded from the variables that can be followed. -/
theorem exists_ofVariables_iff : (∃ s, Settings.ofVariables lookup = .ok s) ↔ Loadable lookup := by
  have zero : WithinDay 0 := ⟨by decide, by decide⟩
  simp only [ofVariables_eq_ok_iff]
  constructor
  · rintro ⟨s, follows, range⟩
    refine ⟨exists_stated_iff.1 ⟨_, follows.environment⟩, ?_, exists_stated_iff.1 ⟨_, follows.level⟩, ?_⟩
    · exact exists_stated_iff.1 ⟨_, (stated_and_iff zero).1 ⟨follows.skew, range⟩⟩
    · intro role raw set
      obtain ⟨keys, listed⟩ := exists_stated_iff.1 ⟨_, follows.keys role⟩ raw set
      exact exists_keyList_iff.1 ⟨keys, keyList_eq_ok_iff.2 listed⟩
  · intro loadable
    obtain ⟨e, named⟩ := exists_stated_iff.2 loadable.environment
    obtain ⟨n, spelled⟩ := exists_stated_iff.2 loadable.skew
    obtain ⟨level, leveled⟩ := exists_stated_iff.2 loadable.level
    have keys (role : SignerRole) : ∃ keys, Stated (lookup (keysVariable role)) [] StatesKeys keys :=
      exists_stated_iff.2 fun raw set =>
        (exists_keyList_iff.2 (loadable.keys role raw set)).imp fun _ read => keyList_eq_ok_iff.1 read
    obtain ⟨idp, listed⟩ := keys .idp
    obtain ⟨hub, listed'⟩ := keys .hub
    obtain ⟨spelled, range⟩ := (stated_and_iff zero).2 spelled
    refine ⟨⟨e, _, ⟨idp, hub⟩, n, _, level⟩, ⟨named, overridden_iff.2 rfl, ?_, spelled, rfl, leveled⟩, range⟩
    rintro (_ | _)
    · exact listed
    · exact listed'

end

/-! ## One section at a time -/

/-- A section of the settings. -/
inductive Section where
  | environment
  | trustAnchor
  | keys (role : SignerRole)
  | skew
  | logging
  | level

namespace Section

/-- The variables of a section. -/
def names : Section → List String
  | environment => ["VERIFY_HUB_ENVIRONMENT"]
  | trustAnchor => anchorVariables
  | keys role => [keysVariable role]
  | skew => ["VERIFY_CLOCK_SKEW_SECONDS"]
  | logging => ["VERIFY_LOG_LEVEL"]
  | level => ["VERIFY_MINIMUM_LEVEL"]

/-- Two settings have this section in common. -/
def Same (s t : Settings) : Section → Prop
  | environment => s.hubEnvironment = t.hubEnvironment
  | trustAnchor => s.trustAnchor = t.trustAnchor
  | keys role => s.trustKeys.of role = t.trustKeys.of role
  | skew => s.clockSkewSeconds = t.clockSkewSeconds
  | logging => s.logging = t.logging
  | level => s.minimumLevel = t.minimumLevel

end Section

/-- What a variable states is determined by its value, when it is read from there. -/
theorem Stated.unique {α : Type} {value value' : Option String} {default a b : α}
    {read : String → Except Error α} {states : String → α → Prop}
    (readable : ∀ raw a, read raw = .ok a ↔ states raw a) (same : value = value')
    (stated : Stated value default states a) (again : Stated value' default states b) : a = b := by
  subst same
  have first := (fromVariable_eq_ok_iff readable).2 stated
  rw [(fromVariable_eq_ok_iff readable).2 again] at first
  exact (Except.ok.inj first).symm

/-- A section follows its own variables and no others. -/
theorem Settings.Follows.same {s t : Settings} {lookup other : String → Option String} (follows : s.Follows lookup)
    (follows' : t.Follows other) {x : Section} (agree : ∀ name ∈ x.names, lookup name = other name) :
    x.Same s t := by
  cases x with
  | environment =>
    exact Stated.unique (fun _ _ => environmentOf_eq_ok_iff) (agree _ List.mem_cons_self) follows.environment
      follows'.environment
  | trustAnchor =>
    have first := overridden_iff.1 follows.trustAnchor
    rw [agree "VERIFY_METADATA_URI" (by decide), agree "VERIFY_TRUST_ANCHOR_URI" (by decide),
      agree "VERIFY_TRUST_STORE" (by decide)] at first
    exact first.trans (overridden_iff.1 follows'.trustAnchor).symm
  | keys role =>
    exact Stated.unique (fun _ _ => keyList_eq_ok_iff) (agree _ List.mem_cons_self) (follows.keys role)
      (follows'.keys role)
  | skew =>
    exact Stated.unique (fun _ _ => skewOf_eq_ok_iff) (agree _ List.mem_cons_self) follows.skew follows'.skew
  | logging =>
    have first := follows.logging
    rw [agree _ List.mem_cons_self] at first
    exact first.trans follows'.logging.symm
  | level =>
    exact Stated.unique (fun _ _ => levelOf_eq_ok_iff) (agree _ List.mem_cons_self) follows.level follows'.level

end RelyingParty.Config
