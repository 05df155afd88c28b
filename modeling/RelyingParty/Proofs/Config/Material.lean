import RelyingParty.Config.Wiring
import RelyingParty.Proofs.Bytes.Base64
import RelyingParty.Proofs.Config.KeyList
import RelyingParty.Proofs.Refusal
import RelyingParty.Proofs.Signing.Edwards
import RelyingParty.Proofs.Trust.Answer
import RelyingParty.Signing.Ed25519

/-!
# The trust material of configured keys

Every configured key has to be the base64 text of 32 bytes that are decompressed to a point of the curve. The
first one that is not, identity providers before the hub, is the one that is reported. Where there is none, the
material answers for each role with the last key of its own list under an identifier.
-/

namespace RelyingParty.Config
set_option autoImplicit false
open Signing Trust

/-! ## Single keys -/

/-- A configured key holds a public key: the base64 text of 32 bytes that are decompressed to a point of the
curve. -/
structure TrustedKey.Decodes (k : TrustedKey) (key : PublicKey) : Prop where
  kid : key.kid = k.kid
  text : k.publicKey = Bytes.Base64.text key.bytes
  length : key.bytes.length = 32
  point : ∃ p, Edwards.Point.decode? key.bytes = some p ∧ p.OnCurve

/-- A configured key is refused with a failure that names it. -/
inductive RefusesKey (k : TrustedKey) : Error → Prop where
  | text {fault : Bytes.Base64.Fault} (foreign : ∀ bytes, k.publicKey ≠ Bytes.Base64.text bytes)
    (report : Bytes.Base64.ofText k.publicKey = .error fault) : RefusesKey k (.invalidKey k.kid (.base64 fault))
  | length {bytes : List UInt8} (text : k.publicKey = Bytes.Base64.text bytes) (other : bytes.length ≠ 32) :
    RefusesKey k (.invalidKey k.kid (.key (.wrongLength bytes.length)))
  | point {bytes : List UInt8} (text : k.publicKey = Bytes.Base64.text bytes) (length : bytes.length = 32)
    (none : Edwards.Point.decode? bytes = none) : RefusesKey k (.invalidKey k.kid (.key .notAPoint))

section
variable {k : TrustedKey} {key : PublicKey} {bytes : List UInt8} {failure : Error}

theorem decode_of_text (text : k.publicKey = Bytes.Base64.text bytes) : k.decode Ed25519.scheme =
    (PublicKey.ofBytes Ed25519.scheme k.kid bytes).mapError fun e => .invalidKey k.kid (.key e) := by
  rw [TrustedKey.decode, Bytes.Base64.ofText_eq_ok_iff.2 text]

theorem decode_of_decodes (decodes : k.Decodes key) : k.decode Ed25519.scheme = .ok key := by
  obtain ⟨p, point, -⟩ := decodes.point
  have valid : Ed25519.scheme.isPublicKey key.bytes = true := congrArg Option.isSome point
  rw [decode_of_text decodes.text, PublicKey.ofBytes, if_neg (not_not_intro decodes.length), if_pos valid,
    ← decodes.kid]
  rfl

theorem decode_of_refuses (refused : RefusesKey k failure) : k.decode Ed25519.scheme = .error failure := by
  cases refused with
  | text foreign report => rw [TrustedKey.decode, report]
  | length text other =>
    rw [decode_of_text text, PublicKey.ofBytes, if_pos other]
    rfl
  | point text length none =>
    have invalid : ¬Ed25519.scheme.isPublicKey _ = true := Bool.not_eq_true _ ▸ congrArg Option.isSome none
    rw [decode_of_text text, PublicKey.ofBytes, if_neg (not_not_intro length), if_neg invalid]
    rfl

/-- A configured key holds one public key. -/
theorem TrustedKey.Decodes.unique {other : PublicKey} (decodes : k.Decodes key) (again : k.Decodes other) :
    key = other := by
  have first := decode_of_decodes decodes
  rw [decode_of_decodes again] at first
  exact (Except.ok.inj first).symm

/-- Every configured key holds a public key or is refused. -/
theorem decodes_or_refused (k : TrustedKey) : (∃ key, k.Decodes key) ∨ ∃ failure, RefusesKey k failure := by
  cases read : Bytes.Base64.ofText k.publicKey with
  | error fault =>
    refine .inr ⟨_, .text (fun bytes text => ?_) read⟩
    rw [Bytes.Base64.ofText_eq_ok_iff.2 text] at read
    cases read
  | ok bytes =>
    have text := Bytes.Base64.ofText_eq_ok_iff.1 read
    by_cases length : bytes.length = 32
    · cases point : Edwards.Point.decode? bytes with
      | none => exact .inr ⟨_, .point text length point⟩
      | some p => exact .inl ⟨⟨k.kid, bytes⟩, rfl, text, length, p, point, Edwards.onCurve_of_decode? point⟩
    · exact .inr ⟨_, .length text length⟩

theorem RefusesKey.not_decodes (refused : RefusesKey k failure) : ¬k.Decodes key := by
  intro decodes
  have read := decode_of_decodes decodes
  rw [decode_of_refuses refused] at read
  cases read

theorem exists_refusesKey_iff : (∃ failure, RefusesKey k failure) ↔ ¬∃ key, k.Decodes key := by
  constructor
  · rintro ⟨failure, refused⟩ ⟨key, decodes⟩
    exact refused.not_decodes decodes
  · exact (decodes_or_refused k).resolve_left

theorem decode_eq_ok_iff : k.decode Ed25519.scheme = .ok key ↔ k.Decodes key := by
  refine ⟨fun read => ?_, decode_of_decodes⟩
  rcases decodes_or_refused k with ⟨other, decodes⟩ | ⟨failure, refused⟩
  · rw [decode_of_decodes decodes] at read
    exact Except.ok.inj read ▸ decodes
  · rw [decode_of_refuses refused] at read
    cases read

theorem RefusesKey.single {other : Error} (refused : RefusesKey k failure) (again : RefusesKey k other) :
    failure = other := by
  have first := decode_of_refuses refused
  rw [decode_of_refuses again] at first
  exact (Except.error.inj first).symm

theorem reports_decode (k : TrustedKey) : Reports RefusesKey [k] (k.decode Ed25519.scheme) := by
  rcases decodes_or_refused k with ⟨key, decodes⟩ | ⟨failure, refused⟩
  · rw [decode_of_decodes decodes]
    exact reports_ok key (List.forall_mem_singleton.2 fun failure refused => refused.not_decodes decodes)
  · rw [decode_of_refuses refused]
    exact reports_error (List.forall_mem_nil _) refused

end

/-! ## The last one under a name -/

/-- The last of some things under its name. -/
def LastNamed {α β : Type} (name : α → β) (list : List α) (a : α) : Prop :=
  ∃ before after, list = before ++ a :: after ∧ name a ∉ after.map name

theorem not_lastNamed_nil {α β : Type} {name : α → β} {a : α} : ¬LastNamed name [] a := by
  rintro ⟨before, after, split, -⟩
  cases before <;> cases split

theorem lastNamed_cons {α β : Type} {name : α → β} {list : List α} {a b : α} :
    LastNamed name (a :: list) b ↔ LastNamed name list b ∨ (a = b ∧ name a ∉ list.map name) := by
  constructor
  · rintro ⟨before, after, split, last⟩
    cases before with
    | nil =>
      obtain ⟨rfl, rfl⟩ := List.cons.inj split
      exact .inr ⟨rfl, last⟩
    | cons c before => exact .inl ⟨before, after, (List.cons.inj split).2, last⟩
  · rintro (⟨before, after, rfl, last⟩ | ⟨rfl, last⟩)
    · exact ⟨a :: before, after, rfl, last⟩
    · exact ⟨[], list, rfl, last⟩

section
variable {ks : List TrustedKey} {keys : List PublicKey} {key : PublicKey}

theorem kids_of_decodes (decoded : List.Forall₂ TrustedKey.Decodes ks keys) :
    keys.map PublicKey.kid = ks.map TrustedKey.kid := by
  induction decoded with
  | nil => rfl
  | cons first _ ih => rw [List.map_cons, List.map_cons, first.kid, ih]

/-- The last key under an identifier is the one that the last configured key under it holds. -/
theorem lastNamed_of_decodes (decoded : List.Forall₂ TrustedKey.Decodes ks keys) :
    LastNamed PublicKey.kid keys key ↔ ∃ k, LastNamed TrustedKey.kid ks k ∧ k.Decodes key := by
  induction decoded with
  | nil => exact iff_of_false not_lastNamed_nil fun ⟨_, last, _⟩ => not_lastNamed_nil last
  | @cons j other ks keys first rest ih =>
    -- The identifiers that follow are the same in both lists, so both firsts are shadowed or neither is.
    have alone : other.kid ∉ keys.map PublicKey.kid ↔ j.kid ∉ ks.map TrustedKey.kid := by
      rw [kids_of_decodes rest, first.kid]
    simp only [lastNamed_cons, ih, alone]
    constructor
    · rintro (⟨k, last, decodes⟩ | ⟨rfl, last⟩)
      · exact ⟨k, .inl last, decodes⟩
      · exact ⟨j, .inr ⟨rfl, last⟩, first⟩
    · rintro ⟨k, last | ⟨rfl, last⟩, decodes⟩
      · exact .inl ⟨k, last, decodes⟩
      · exact .inr ⟨first.unique decodes, last⟩

end

/-! ## Keys of both roles -/

/-- The keys of a list that are for a role. -/
def keysFor (keys : List (SignerRole × PublicKey)) (role : SignerRole) : List PublicKey :=
  (keys.filter fun k => k.1 == role).map Prod.snd

theorem keysFor_cons_of_eq {keys : List (SignerRole × PublicKey)} {k : SignerRole × PublicKey} {role : SignerRole}
    (own : k.1 = role) : keysFor (k :: keys) role = k.2 :: keysFor keys role := by
  rw [keysFor, List.filter_cons_of_pos (p := fun k : SignerRole × PublicKey => k.1 == role) (beq_iff_eq.2 own)]
  rfl

theorem keysFor_cons_of_ne {keys : List (SignerRole × PublicKey)} {k : SignerRole × PublicKey} {role : SignerRole}
    (other : k.1 ≠ role) : keysFor (k :: keys) role = keysFor keys role := by
  rw [keysFor, List.filter_cons_of_neg (by rwa [beq_iff_eq])]
  rfl

theorem mem_kids_keysFor_iff {keys : List (SignerRole × PublicKey)} {role : SignerRole} {kid : String} :
    kid ∈ (keysFor keys role).map PublicKey.kid ↔ (role, kid) ∈ keys.map fun k => (k.1, k.2.kid) := by
  simp [keysFor]

theorem lastNamed_keysFor {keys : List (SignerRole × PublicKey)} {role : SignerRole} {key : PublicKey} :
    LastNamed (fun k : SignerRole × PublicKey => (k.1, k.2.kid)) keys (role, key) ↔
      LastNamed PublicKey.kid (keysFor keys role) key := by
  induction keys with
  | nil => exact iff_of_false not_lastNamed_nil not_lastNamed_nil
  | cons k keys ih =>
    refine lastNamed_cons.trans ?_
    by_cases own : k.1 = role
    · subst own
      rw [keysFor_cons_of_eq rfl, lastNamed_cons, mem_kids_keysFor_iff, Prod.ext_iff, and_iff_right rfl]
      exact or_congr_left ih
    · rw [keysFor_cons_of_ne own, or_iff_left fun found => own (congrArg Prod.fst found.1)]
      exact ih

/-- The last key added for a role is the last one in the list of the role. -/
theorem lastAdded_iff {keys : List (SignerRole × PublicKey)} {role : SignerRole} {key : PublicKey} :
    Material.LastAdded keys role key ↔ LastNamed PublicKey.kid (keysFor keys role) key := by
  rw [← lastNamed_keysFor]
  refine exists_congr fun before => exists_congr fun after => and_congr_right fun _ => ?_
  simp only [List.mem_map, Prod.mk.injEq, not_exists, not_and]

/-- One thing for each role. -/
def perRole {α : Type} (idp hub : α) : SignerRole → α
  | .idp => idp
  | .hub => hub

/-- Keys of both roles, those of identity providers first. -/
def keysOfRoles (keys : SignerRole → List PublicKey) : List (SignerRole × PublicKey) :=
  (keys .idp).map (Prod.mk .idp) ++ (keys .hub).map (Prod.mk .hub)

theorem keysFor_keysOfRoles (keys : SignerRole → List PublicKey) (role : SignerRole) :
    keysFor (keysOfRoles keys) role = keys role := by
  cases role <;> simp [keysFor, keysOfRoles, List.filter_map, Function.comp_def]

theorem addKeys_eq {scheme : Scheme} {role : SignerRole} {m : Material} {ks : List TrustedKey} :
    addKeys scheme role m ks =
      (ks.mapM (TrustedKey.decode scheme)).map fun keys => keys.foldl (fun m key => m.withKey role key) m := by
  induction ks generalizing m with
  | nil => rfl
  | cons k rest ih =>
    rw [addKeys, List.mapM_cons]
    cases k.decode scheme with
    | error failure => rfl
    | ok key =>
      rw [ok_bind, ok_bind, ih]
      cases rest.mapM (TrustedKey.decode scheme) <;> rfl

/-- The material is that of the keys that are held, in order. -/
theorem material_eq_ok_iff {s : Settings} {m : Material} : s.material Ed25519.scheme = .ok m ↔
    ∃ keys : SignerRole → List PublicKey,
      (∀ role, List.Forall₂ TrustedKey.Decodes (s.trustKeys.of role) (keys role)) ∧
        m = .ofKeys (keysOfRoles keys) := by
  simp only [Settings.material, addKeys_eq, bind_eq_ok_iff, map_eq_ok_iff, mapM_eq_ok_iff, decode_eq_ok_iff]
  have added (keys : SignerRole → List PublicKey) : Material.ofKeys (keysOfRoles keys) =
      (keys .hub).foldl (fun m key => m.withKey .hub key)
        ((keys .idp).foldl (fun m key => m.withKey .idp key) .empty) := by
    rw [Material.ofKeys, keysOfRoles, List.foldl_append, List.foldl_map, List.foldl_map]
  constructor
  · rintro ⟨_, ⟨idp, decoded, rfl⟩, hub, decoded', rfl⟩
    refine ⟨perRole idp hub, ?_, (added (perRole idp hub)).symm⟩
    rintro (_ | _)
    · exact decoded
    · exact decoded'
  · rintro ⟨keys, decoded, rfl⟩
    exact ⟨_, ⟨_, decoded .idp, rfl⟩, _, decoded .hub, (added keys).symm⟩

/-- There is material when every configured key holds a public key. -/
theorem exists_material_iff {s : Settings} :
    (∃ m, s.material Ed25519.scheme = .ok m) ↔ ∀ role, ∀ k ∈ s.trustKeys.of role, ∃ key, k.Decodes key := by
  simp only [material_eq_ok_iff]
  constructor
  · rintro ⟨m, keys, decoded, -⟩ role
    exact exists_forall₂_iff.1 ⟨_, decoded role⟩
  · intro all
    choose keys decoded using fun role => exists_forall₂_iff.2 (all role)
    exact ⟨_, keys, decoded, rfl⟩

theorem reports_material (s : Settings) :
    Reports RefusesKey (s.trustKeys.idp ++ s.trustKeys.hub) (s.material Ed25519.scheme) := by
  have each (ks : List TrustedKey) : Reports RefusesKey ks (ks.mapM (TrustedKey.decode Ed25519.scheme)) := by
    have reports : Reports RefusesKey (ks.map id) (ks.mapM (TrustedKey.decode Ed25519.scheme)) :=
      reports_mapM reports_decode ks
    rwa [List.map_id] at reports
  rw [Settings.material, addKeys_eq]
  refine ((each _).map_answer _).bind fun m _ => ?_
  rw [addKeys_eq]
  exact (each _).map_answer _

/-- Material that holds the configured keys: for each role the last one of its list under an identifier. -/
structure Settings.Trusts (s : Settings) (m : Material) : Prop where
  key?_eq_some_iff : ∀ role kid key, m.key? role kid = some key ↔
    ∃ k, LastNamed TrustedKey.kid (s.trustKeys.of role) k ∧ k.kid = kid ∧ k.Decodes key
  key?_eq_none_iff : ∀ role kid, m.key? role kid = none ↔ ∀ k ∈ s.trustKeys.of role, k.kid ≠ kid
  /-- The keys trusted for a role are as many as there are different identifiers in its list. -/
  keyCount_eq : ∀ role, m.keyCount role = ((s.trustKeys.of role).map TrustedKey.kid).dedup.length

theorem trusts_of_material {s : Settings} {m : Material} (made : s.material Ed25519.scheme = .ok m) :
    s.Trusts m := by
  obtain ⟨keys, decoded, rfl⟩ := material_eq_ok_iff.1 made
  have answers := Material.answersAs_ofKeys (keysOfRoles keys)
  have kids (role : SignerRole) : Material.kidsFor (keysOfRoles keys) role =
      (s.trustKeys.of role).map TrustedKey.kid := by
    rw [← kids_of_decodes (decoded role), ← keysFor_keysOfRoles keys role, keysFor, List.map_map]
    rfl
  refine ⟨?_, ?_, ?_⟩
  · intro role kid key
    rw [answers.key?_eq_some_iff, lastAdded_iff, keysFor_keysOfRoles, lastNamed_of_decodes (decoded role)]
    constructor
    · rintro ⟨⟨k, last, decodes⟩, rfl⟩
      exact ⟨k, last, decodes.kid.symm, decodes⟩
    · rintro ⟨k, last, rfl, decodes⟩
      exact ⟨⟨k, last, decodes⟩, decodes.kid⟩
  · intro role kid
    have absent : (Material.ofKeys (keysOfRoles keys)).key? role kid = none ↔
        kid ∉ (Material.ofKeys (keysOfRoles keys)).kids role := by
      rw [Material.mem_kids_iff, not_exists, Option.eq_none_iff_forall_ne_some]
    rw [absent, answers.mem_kids_iff, kids]
    simp only [List.mem_map, not_exists, not_and, ne_eq]
  · intro role
    rw [answers.keyCount_eq, kids]

/-- **Configured keys become trust material** if and only if each is canonical base64 of 32 bytes that are
decompressed to a point; otherwise the first one that is not is named, identity providers before the hub. A role
is then trusted with the last key of its own list under each identifier, and no others. -/
theorem material_of_settings (s : Settings) :
    ((∃ m, s.material Ed25519.scheme = .ok m) ↔ ∀ role, ∀ k ∈ s.trustKeys.of role, ∃ key, k.Decodes key) ∧
      (∀ failure, s.material Ed25519.scheme = .error failure ↔
        ∃ k, FirstRefusal RefusesKey (s.trustKeys.idp ++ s.trustKeys.hub) k failure) ∧
      (∀ k, (∃ failure, RefusesKey k failure) ↔ ¬∃ key, k.Decodes key) ∧
      (∀ m, s.material Ed25519.scheme = .ok m → s.Trusts m) ∧
      ∀ now, s.service Ed25519.scheme now =
        (s.material Ed25519.scheme).map fun m => .standard (.registry (.new m)) (s.clock now) := by
  refine ⟨exists_material_iff, (reports_material s).error_iff fun _ _ _ => RefusesKey.single,
    fun _ => exists_refusesKey_iff, fun m => trusts_of_material, fun now => ?_⟩
  rw [Settings.service]
  cases s.material Ed25519.scheme <;> rfl

namespace Sample

/-- The neutral point, as the key of an identity provider. -/
def neutral : PublicKey := ⟨"idp-1", 1 :: List.replicate 31 0⟩

/-- A point with zero for its second coordinate, under the same identifier. -/
def level : PublicKey := ⟨"idp-1", List.replicate 32 0⟩

/-- The base64 text of the neutral point. -/
def neutralText : String := "AQAAAAAAAAAAAAAAAAAAAAAAAAAAAAAAAAAAAAAAAAA="

/-- The base64 text of the other point. -/
def levelText : String := "AAAAAAAAAAAAAAAAAAAAAAAAAAAAAAAAAAAAAAAAAAA="

/-- Settings that list both points for identity providers. -/
def repeated : Settings where
  hubEnvironment := .default
  trustAnchor := none
  trustKeys := ⟨[⟨"idp-1", neutralText⟩, ⟨"idp-1", levelText⟩], []⟩
  clockSkewSeconds := 0
  logging := .default
  minimumLevel := .level2

/-- A key of three bytes. -/
def short : TrustedKey := ⟨"hub-1", "AAAA"⟩

/-- The same settings with that key for the hub, and one behind it that is no base64. -/
def refused : Settings := { repeated with trustKeys := ⟨repeated.trustKeys.idp, [short, ⟨"hub-2", "AAA"⟩]⟩ }

theorem decodes_neutral : TrustedKey.Decodes ⟨"idp-1", neutralText⟩ neutral :=
  ⟨rfl, by decide +kernel, by decide, Edwards.exists_onCurve (by decide +kernel)⟩

theorem decodes_level : TrustedKey.Decodes ⟨"idp-1", levelText⟩ level :=
  ⟨rfl, by decide +kernel, by decide, Edwards.exists_onCurve (by decide +kernel)⟩

end Sample

theorem material_of_settings_repeated :
    (∃ m, Sample.repeated.material Ed25519.scheme = .ok m ∧ m.key? .idp "idp-1" = some Sample.level ∧
        m.key? .hub "idp-1" = none ∧ m.keyCount .idp = 1) ∧
      Sample.refused.material Ed25519.scheme = .error (.invalidKey "hub-1" (.key (.wrongLength 3))) := by
  refine ⟨?_, ?_⟩
  · obtain ⟨loaded, -, -, trusts, -⟩ := material_of_settings Sample.repeated
    have all : ∀ role, ∀ k ∈ Sample.repeated.trustKeys.of role, ∃ key, k.Decodes key := by
      rintro (_ | _)
      · refine List.forall_mem_cons.2 ⟨⟨_, Sample.decodes_neutral⟩, ?_⟩
        exact List.forall_mem_singleton.2 ⟨_, Sample.decodes_level⟩
      · exact nofun
    obtain ⟨m, made⟩ := loaded.2 all
    have held := trusts m made
    refine ⟨m, made, (held.key?_eq_some_iff _ _ _).2 ⟨_, ⟨[_], [], rfl, nofun⟩, rfl, Sample.decodes_level⟩,
      (held.key?_eq_none_iff _ _).2 nofun, ?_⟩
    rw [held.keyCount_eq]
    decide
  · obtain ⟨-, refuses, -⟩ := material_of_settings Sample.refused
    refine (refuses _).2 ⟨Sample.short, Sample.repeated.trustKeys.idp, [⟨"hub-2", "AAA"⟩], rfl, ?_, ?_⟩
    · refine List.forall_mem_cons.2 ⟨fun _ refused => refused.not_decodes Sample.decodes_neutral, ?_⟩
      exact List.forall_mem_singleton.2 fun _ refused => refused.not_decodes Sample.decodes_level
    · have text : Sample.short.publicKey = Bytes.Base64.text [0, 0, 0] := by decide +kernel
      exact .length text (by decide)

end RelyingParty.Config
