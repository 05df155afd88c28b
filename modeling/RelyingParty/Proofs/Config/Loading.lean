import RelyingParty.Proofs.Config.Variables

/-!
# What variables are accepted as settings

Settings are loaded from variables that each section can follow. Other variables are refused for the first bad
one, where the range of the skew is looked at last. Refresh delays are never what is refused.
-/

namespace RelyingParty.Config
set_option autoImplicit false
open Text Trust

/-! ## The first bad setting -/

/-- What can be wrong with variables, in the order in which it is noticed. -/
inductive SettingCheck where
  | environment
  | skewText
  | level
  | keys (role : SignerRole)
  | skewRange
deriving DecidableEq

/-- All checks, in order. -/
def SettingCheck.all : List SettingCheck := [.environment, .skewText, .level, .keys .idp, .keys .hub, .skewRange]

/-- A check of variables refuses them with a failure. -/
inductive RefusesSetting (lookup : String → Option String) : SettingCheck → Error → Prop where
  | environment {raw : String} (set : lookup "VERIFY_HUB_ENVIRONMENT" = some raw)
    (unknown : ∀ e : HubEnvironment, raw ≠ e.name) :
    RefusesSetting lookup .environment (.unknownEnvironment raw)
  | skewText {raw : String} (set : lookup "VERIFY_CLOCK_SKEW_SECONDS" = some raw)
    (unreadable : ∀ seconds : Int64, ¬SpellsInteger raw.toList seconds.toInt) :
    RefusesSetting lookup .skewText (.invalidValue (.skewNotANumber raw))
  | level {raw : String} (set : lookup "VERIFY_MINIMUM_LEVEL" = some raw)
    (unknown : ∀ level : AssuranceLevel, lowerAscii raw ≠ lowerAscii level.name) :
    RefusesSetting lookup .level (.invalidValue (.unknownLevel raw))
  | keys {role : SignerRole} {raw : String} {entry : List Char} {failure : Error}
    (set : lookup (keysVariable role) = some raw)
    (first : FirstRefusal Malformed (raw.toList.splitOn ',') entry failure) :
    RefusesSetting lookup (.keys role) failure
  | negativeSkew {raw : String} {seconds : Int64} (set : lookup "VERIFY_CLOCK_SKEW_SECONDS" = some raw)
    (spells : SpellsInteger raw.toList seconds.toInt) (negative : seconds.toInt < 0) :
    RefusesSetting lookup .skewRange (.invalidValue .negativeSkew)
  | excessiveSkew {raw : String} {seconds : Int64} (set : lookup "VERIFY_CLOCK_SKEW_SECONDS" = some raw)
    (spells : SpellsInteger raw.toList seconds.toInt) (excessive : 86400 < seconds.toInt) :
    RefusesSetting lookup .skewRange (.invalidValue .excessiveSkew)

section
variable {lookup : String → Option String}

theorem Malformed.single {entry : List Char} {f g : Error} (refused : Malformed entry f)
    (again : Malformed entry g) : f = g :=
  refused.reported.trans again.reported.symm

theorem RefusesSetting.single {c : SettingCheck} {f g : Error} (refused : RefusesSetting lookup c f)
    (again : RefusesSetting lookup c g) : f = g := by
  have value {name raw raw' : String} (set : lookup name = some raw) (set' : lookup name = some raw') : raw = raw' :=
    Option.some.inj (set.symm.trans set')
  cases refused with
  | environment set =>
    cases again with
    | environment set' => rw [value set set']
  | skewText set =>
    cases again with
    | skewText set' => rw [value set set']
  | level set =>
    cases again with
    | level set' => rw [value set set']
  | keys set first =>
    cases again with
    | keys set' first' =>
      rw [value set set'] at first
      exact first.unique (fun _ _ _ refused again => refused.single again) first'
  | negativeSkew set spells negative =>
    cases again with
    | negativeSkew => rfl
    | excessiveSkew set' spells' excessive =>
      rw [skew_unique spells (value set set' ▸ spells')] at negative
      omega
  | excessiveSkew set spells excessive =>
    cases again with
    | negativeSkew set' spells' negative =>
      rw [skew_unique spells (value set set' ▸ spells')] at excessive
      omega
    | excessiveSkew => rfl

/-- A variable is refused for the values that state nothing. -/
theorem reports_fromVariable {α : Type} {value : Option String} {default : α} {read : String → Except Error α}
    {states : String → α → Prop} {c : SettingCheck} (fault : String → Error)
    (readable : ∀ raw a, read raw = .ok a ↔ states raw a)
    (only : ∀ raw failure, read raw = .error failure → failure = fault raw)
    (refuses : ∀ failure, RefusesSetting lookup c failure ↔
      ∃ raw, value = some raw ∧ (∀ a, ¬states raw a) ∧ failure = fault raw) :
    Reports (RefusesSetting lookup) [c] (fromVariable value default read) := by
  refine reports_single ?_ ?_
  · intro failure failing
    cases value with
    | none => cases failing
    | some raw =>
      refine (refuses failure).2 ⟨raw, rfl, fun a stated => ?_, only raw failure failing⟩
      rw [fromVariable, (readable raw a).2 stated] at failing
      cases failing
  · intro a success failure refused
    obtain ⟨raw, rfl, unreadable, -⟩ := (refuses failure).1 refused
    exact unreadable a ((readable raw a).1 success)

theorem reports_environment {default : HubEnvironment} :
    Reports (RefusesSetting lookup) [.environment]
      (fromVariable (lookup "VERIFY_HUB_ENVIRONMENT") default environmentOf) := by
  refine reports_fromVariable .unknownEnvironment (fun _ _ => environmentOf_eq_ok_iff) ?_ ?_
  · intro raw failure failing
    unfold environmentOf at failing
    split at failing <;> cases failing
    rfl
  · intro failure
    constructor
    · intro refused
      cases refused with
      | environment set unknown => exact ⟨_, set, unknown, rfl⟩
    · rintro ⟨raw, set, unknown, rfl⟩
      exact .environment set unknown

theorem reports_skewText {default : Int64} :
    Reports (RefusesSetting lookup) [.skewText]
      (fromVariable (lookup "VERIFY_CLOCK_SKEW_SECONDS") default skewOf) := by
  refine reports_fromVariable (fun raw => .invalidValue (.skewNotANumber raw))
    (fun _ _ => skewOf_eq_ok_iff) ?_ ?_
  · intro raw failure failing
    unfold skewOf at failing
    split at failing <;> cases failing
    rfl
  · intro failure
    constructor
    · intro refused
      cases refused with
      | skewText set unreadable => exact ⟨_, set, unreadable, rfl⟩
    · rintro ⟨raw, set, unreadable, rfl⟩
      exact .skewText set unreadable

theorem reports_level {default : AssuranceLevel} :
    Reports (RefusesSetting lookup) [.level] (fromVariable (lookup "VERIFY_MINIMUM_LEVEL") default levelOf) := by
  refine reports_fromVariable (fun raw => .invalidValue (.unknownLevel raw))
    (fun _ _ => levelOf_eq_ok_iff) ?_ ?_
  · intro raw failure failing
    unfold levelOf at failing
    split at failing <;> cases failing
    rfl
  · intro failure
    constructor
    · intro refused
      cases refused with
      | level set unknown => exact ⟨_, set, unknown, rfl⟩
    · rintro ⟨raw, set, unknown, rfl⟩
      exact .level set unknown

theorem reports_keys (role : SignerRole) :
    Reports (RefusesSetting lookup) [.keys role] (fromVariable (lookup (keysVariable role)) [] keyList) := by
  refine reports_single ?_ ?_
  · intro failure failing
    cases set : lookup (keysVariable role) with
    | none =>
      rw [set] at failing
      cases failing
    | some raw =>
      rw [set, fromVariable, keyList_eq] at failing
      obtain ⟨entry, first⟩ := (reports_keysOfEntries _).failed failure failing
      exact .keys set first
  · intro keys success failure refused
    cases refused with
    | keys set first =>
      rw [set, fromVariable, keyList_eq] at success
      obtain ⟨before, after, split, -, refused⟩ := first
      exact (reports_keysOfEntries _).passed keys success _ (split ▸ by simp) failure refused

/-- The range of the skew is all that is left to refuse when the variables are read. -/
theorem reports_validate {s : Settings} (overridden : Overridden lookup s.trustAnchor)
    (skew : Stated (lookup "VERIFY_CLOCK_SKEW_SECONDS") 0 (fun raw n => SpellsInteger raw.toList n.toInt)
      s.clockSkewSeconds) : Reports (RefusesSetting lookup) [.skewRange] s.validate := by
  have ordered : s.anchor.refresh.isOrdered = true := by
    rw [Settings.anchor, overridden.refresh]
    decide
  -- The default is in range, so a skew that is not was read from the variable.
  have set (other : s.clockSkewSeconds ≠ 0) : ∃ raw, lookup "VERIFY_CLOCK_SKEW_SECONDS" = some raw ∧
      SpellsInteger raw.toList s.clockSkewSeconds.toInt := by
    cases set : lookup "VERIFY_CLOCK_SKEW_SECONDS" with
    | none =>
      rw [set] at skew
      exact absurd skew other
    | some raw =>
      rw [set] at skew
      exact ⟨raw, rfl, skew⟩
  have seconds {raw : String} {n : Int64} (set : lookup "VERIFY_CLOCK_SKEW_SECONDS" = some raw)
      (spells : SpellsInteger raw.toList n.toInt) : n = s.clockSkewSeconds := by
    rw [set] at skew
    exact skew_unique spells skew
  rw [Settings.validate, if_pos ordered]
  split
  · next negative =>
    obtain ⟨raw, set, spells⟩ := set fun zero => by
      rw [zero] at negative
      exact absurd negative (by decide)
    exact reports_error (List.forall_mem_nil _) (.negativeSkew set spells negative)
  · next least =>
    split
    · next excessive =>
      obtain ⟨raw, set, spells⟩ := set fun zero => by
        rw [zero] at excessive
        exact absurd excessive (by decide)
      exact reports_error (List.forall_mem_nil _) (.excessiveSkew set spells excessive)
    · next most =>
      refine reports_ok () (List.forall_mem_singleton.2 fun failure refused => ?_)
      cases refused with
      | negativeSkew set spells negative => exact least (seconds set spells ▸ negative)
      | excessiveSkew set spells excessive => exact most (seconds set spells ▸ excessive)

/-- Loading fails as the first bad setting does. -/
theorem reports_ofVariables : Reports (RefusesSetting lookup) SettingCheck.all (Settings.ofVariables lookup) := by
  refine reports_environment.bind fun _ _ => reports_skewText.bind fun n read => reports_level.bind fun _ _ =>
    (reports_keys .idp).bind fun _ _ => (reports_keys .hub).bind fun _ _ => ?_
  have spelled := (fromVariable_eq_ok_iff fun _ _ => skewOf_eq_ok_iff).1 read
  exact (reports_validate (overridden_iff.2 rfl) spelled).bind fun _ _ => reports_ok _ (List.forall_mem_nil _)

theorem RefusesSetting.ne_reversedDelays {c : SettingCheck} {failure : Error}
    (refused : RefusesSetting lookup c failure) : failure ≠ .invalidValue .reversedDelays := by
  cases refused with
  | keys set first => exact first.refused.reported ▸ nofun
  | environment => exact nofun
  | skewText => exact nofun
  | level => exact nofun
  | negativeSkew => exact nofun
  | excessiveSkew => exact nofun

end

/-- **Settings are loaded from exactly the variables that are documented.** Every section follows its own
variables and keeps its default where none is set, with explicit trust settings when one of theirs is. The
refresh delays are always the defaults. Anything else is refused, for the first bad setting in order. -/
theorem settings_follow_variables (lookup : String → Option String) :
    ((∃ s, Settings.ofVariables lookup = .ok s) ↔ Loadable lookup) ∧
      (∀ s, Settings.ofVariables lookup = .ok s ↔ Loadable lookup ∧ s.Follows lookup) ∧
      (∀ s, Settings.ofVariables lookup = .ok s → s.anchor.refresh = ⟨60000, 600000, 60000, 3600000⟩ ∧
        ∀ other t, Settings.ofVariables other = .ok t →
          ∀ x : Section, (∀ name ∈ x.names, lookup name = other name) → x.Same s t) ∧
      (∀ failure, Settings.ofVariables lookup = .error failure ↔
        ∃ c, FirstRefusal (RefusesSetting lookup) SettingCheck.all c failure) ∧
      Settings.ofVariables lookup ≠ .error (.invalidValue .reversedDelays) := by
  have single : ∀ c f g, RefusesSetting lookup c f → RefusesSetting lookup c g → f = g :=
    fun _ _ _ refused again => refused.single again
  have refused (failure : Error) := reports_ofVariables.error_iff single failure
  refine ⟨exists_ofVariables_iff, ?_, ?_, refused, ?_⟩
  · intro s
    constructor
    · intro loaded
      exact ⟨exists_ofVariables_iff.1 ⟨s, loaded⟩, (ofVariables_eq_ok_iff.1 loaded).1⟩
    · rintro ⟨loadable, follows⟩
      exact ofVariables_eq_ok_iff.2 ⟨follows, loadable.withinDay follows⟩
  · intro s loaded
    have follows := (ofVariables_eq_ok_iff.1 loaded).1
    refine ⟨follows.trustAnchor.refresh _, ?_⟩
    intro other t loaded' x agree
    exact follows.same (ofVariables_eq_ok_iff.1 loaded').1 agree
  · intro failing
    obtain ⟨c, first⟩ := (refused _).1 failing
    exact first.refused.ne_reversedDelays rfl

namespace Sample

/-- Variables with a skew that is out of range, a level that there is not, and a key without a separator. -/
def conflicting : String → Option String
  | "VERIFY_CLOCK_SKEW_SECONDS" => some "-1"
  | "VERIFY_MINIMUM_LEVEL" => some "LEVEL_5"
  | "VERIFY_IDP_SIGNING_KEYS" => some "idp-1"
  | _ => none

/-- Variables that set nothing but the skew. -/
def skewOnly : String → Option String
  | "VERIFY_CLOCK_SKEW_SECONDS" => some "+86400"
  | _ => none

end Sample

theorem settings_follow_variables_sample :
    Settings.ofVariables Sample.lookup = .ok Sample.settings ∧ Loadable Sample.lookup ∧
      Sample.settings.Follows Sample.lookup ∧ Sample.settings.anchor.refresh = ⟨60000, 600000, 60000, 3600000⟩ ∧
      Section.skew.Same Sample.settings { Settings.default with clockSkewSeconds := 86400 } ∧
      ∃ c, FirstRefusal (RefusesSetting Sample.conflicting) SettingCheck.all c
        (.invalidValue (.unknownLevel "LEVEL_5")) := by
  have loaded : Settings.ofVariables Sample.lookup = .ok Sample.settings := by decide +kernel
  have loaded' : Settings.ofVariables Sample.skewOnly = .ok { Settings.default with clockSkewSeconds := 86400 } := by
    decide +kernel
  have failing : Settings.ofVariables Sample.conflicting = .error (.invalidValue (.unknownLevel "LEVEL_5")) := by
    decide +kernel
  obtain ⟨-, follows, sections, -, -⟩ := settings_follow_variables Sample.lookup
  obtain ⟨loadable, followed⟩ := (follows _).1 loaded
  obtain ⟨refresh, same⟩ := sections _ loaded
  exact ⟨loaded, loadable, followed, refresh, same _ _ loaded' .skew (by decide),
    ((settings_follow_variables Sample.conflicting).2.2.2.1 _).1 failing⟩

end RelyingParty.Config
