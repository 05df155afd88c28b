import RelyingParty.Proofs.Engine.Authenticity
import RelyingParty.Proofs.Engine.Checks
import RelyingParty.Proofs.Engine.Run
import RelyingParty.Proofs.Trust.Verifier

/-!
# Locality of trust

What an engine answers about a bundle hangs on few of the keys that it trusts: those of identity providers
that the signatures in the bundle name. Of all others it matters only whether there are any.
-/

namespace RelyingParty
set_option autoImplicit false
open Signing Trust

/-! ## Which keys a verification looks at -/

namespace Trust.Material

variable {scheme : Scheme} {m n : Material} {role : SignerRole} {a : Assertion}

/-- Two materials have keys for a role or have none, and hold the same key under the identifier in the
signature of an assertion. -/
structure AgreeOn (m n : Material) (role : SignerRole) (a : Assertion) : Prop where
  any : m.keyCount role = 0 ↔ n.keyCount role = 0
  named : ∀ s, a.signature = some s → m.key? role s.keyId = n.key? role s.keyId

theorem AgreeOn.verify (agree : AgreeOn m n role a) : m.verify scheme a role = n.verify scheme a role := by
  unfold Material.verify
  cases signed : a.signature with
  | none => rfl
  | some s => simp only [agree.any, agree.named s signed]

theorem keyCount_withKey_ne_zero (m : Material) (role : SignerRole) (key : PublicKey) :
    (m.withKey role key).keyCount role ≠ 0 := by
  have found : (m.withKey role key).key? role key.kid = some key := by
    rw [key?_withKey, if_pos ⟨rfl, rfl⟩]
  exact keyCount_ne_zero found

/-- A key that is added where there are others makes no difference to the signatures that do not name
it. -/
theorem agreeOn_withKey {key : PublicKey} (any : m.keyCount role ≠ 0)
    (other : ∀ s, a.signature = some s → s.keyId ≠ key.kid) :
    AgreeOn (m.withKey role key) m role a := by
  refine ⟨iff_of_false (keyCount_withKey_ne_zero m role key) any, ?_⟩
  intro s signed
  rw [key?_withKey, if_neg fun same => other s signed same.2.symm]

/-- Materials with one ring for a role agree on it. -/
theorem agreeOn_of_ring (same : n.rings.get? role = m.rings.get? role) : AgreeOn n m role a := by
  refine ⟨?_, fun _ _ => ?_⟩
  · rw [keyCount, keyCount, same]
  · rw [key?, key?, same]

end Trust.Material

/-! ## Which keys an engine looks at -/

namespace Engine

variable {e : Engine} {scheme : Scheme} {m n : Material} {bundle : List Assertion} {expected : String}
  {minimum : AssuranceLevel}

/-- The engine with a verifier against trust material. -/
def trusting (e : Engine) (scheme : Scheme) (m : Material) : Engine :=
  { e with signature := .ofMaterial scheme m }

/-- Engines that differ in their verifiers validate an assertion alike that these verify alike. -/
theorem validate_congr {v w : SignatureVerifier} {a : Assertion} {role : SignerRole}
    (same : v.verify a role = w.verify a role) :
    validate { e with signature := v } a expected role =
      validate { e with signature := w } a expected role := by
  simp only [validate_eq, same]

/-- Engines that differ in their verifiers identify a bundle alike whose assertions these verify
alike. -/
theorem identify_congr {v w : SignatureVerifier}
    (same : ∀ a ∈ bundle, v.verify a .idp = w.verify a .idp) :
    identify { e with signature := v } bundle expected minimum =
      identify { e with signature := w } bundle expected minimum := by
  simp only [identify, (does_identifyRun _ bundle expected minimum).result]
  apply bind_congr_of_ok
  rintro ⟨authn, identity⟩ split
  obtain ⟨parts, -, -⟩ := splitBundle_eq_ok_iff_perm.1 split
  have valid (a : Assertion) (one : a ∈ [authn, identity]) :
      validate { e with signature := v } a expected .idp =
        validate { e with signature := w } a expected .idp :=
    validate_congr (same a (parts.mem_iff.2 one))
  simp only [valid authn (by simp), valid identity (by simp)]

/-- Every assertion of an accepted bundle is valid. -/
theorem validate_of_identify {i : VerifiedIdentity} (accepted : e.identify bundle expected minimum = .ok i)
    {a : Assertion} (member : a ∈ bundle) : e.validate a expected .idp = .ok () := by
  obtain ⟨authn, identity, _, _, _, split, authnValid, identityValid, -⟩ := e.identify_eq_ok_iff.1 accepted
  obtain ⟨parts, -, -⟩ := splitBundle_eq_ok_iff_perm.1 split
  rcases List.mem_pair.1 (parts.mem_iff.1 member) with rfl | rfl
  · exact authnValid
  · exact identityValid

/-- Every assertion of an accepted bundle names a key that is trusted for identity providers. -/
theorem exists_key_of_identify {i : VerifiedIdentity}
    (accepted : (e.trusting scheme m).identify bundle expected minimum = .ok i) {a : Assertion}
    (member : a ∈ bundle) : ∃ s key, a.signature = some s ∧ m.key? .idp s.keyId = some key := by
  obtain ⟨-, verified, -, -⟩ :=
    (e.trusting scheme m).validate_eq_ok_iff.1 (validate_of_identify accepted member)
  obtain ⟨s, key, signed, found, -⟩ := Material.verify_eq_ok_iff.1 verified
  exact ⟨s, key, signed, found⟩

theorem identify_of_agreeOn (agree : ∀ a ∈ bundle, n.AgreeOn m .idp a) :
    (e.trusting scheme n).identify bundle expected minimum =
      (e.trusting scheme m).identify bundle expected minimum :=
  identify_congr fun a member => (agree a member).verify

end Engine

/-- **Trust is local.** Materials that agree on the keys of identity providers that a bundle names, and on
whether there are any, give one answer. So keys of the hub do not count, a key under a new identifier
takes no acceptance back, and a replaced key counts for the bundles that name it only. -/
theorem identify_local (e : Engine) (scheme : Scheme) (m : Material) (bundle : List Assertion)
    (expected : String) (minimum : AssuranceLevel) :
    (∀ n : Material, (∀ a ∈ bundle, n.AgreeOn m .idp a) →
        (e.trusting scheme n).identify bundle expected minimum =
          (e.trusting scheme m).identify bundle expected minimum) ∧
      (∀ n : Material, n.rings.get? .idp = m.rings.get? .idp →
        (e.trusting scheme n).identify bundle expected minimum =
          (e.trusting scheme m).identify bundle expected minimum) ∧
      (∀ key i, m.key? .idp key.kid = none →
        (e.trusting scheme m).identify bundle expected minimum = .ok i →
        (e.trusting scheme (m.withKey .idp key)).identify bundle expected minimum = .ok i) ∧
      ∀ key old, m.key? .idp key.kid = some old →
        (∀ a ∈ bundle, ∀ s, a.signature = some s → s.keyId ≠ key.kid) →
        (e.trusting scheme (m.withKey .idp key)).identify bundle expected minimum =
          (e.trusting scheme m).identify bundle expected minimum := by
  refine ⟨fun _ => Engine.identify_of_agreeOn, ?_, ?_, ?_⟩
  · intro n same
    exact Engine.identify_of_agreeOn fun a _ => Material.agreeOn_of_ring same
  · intro key i new accepted
    rw [← accepted]
    apply Engine.identify_of_agreeOn
    intro a member
    -- the keys that the bundle names are all there, so the new one is none of them
    obtain ⟨s, trusted, signed, found⟩ := Engine.exists_key_of_identify accepted member
    apply Material.agreeOn_withKey (Material.keyCount_ne_zero found)
    intro s' again same
    obtain rfl := Option.some.inj (signed.symm.trans again)
    rw [same, new] at found
    cases found
  · intro key old present other
    apply Engine.identify_of_agreeOn
    intro a member
    exact Material.agreeOn_withKey (Material.keyCount_ne_zero present) (other a member)

/-- Trust in two identity providers. -/
def Sample.federation : Material := material.withKey .idp ⟨"idp-2", []⟩

theorem identify_local_sample :
    (∀ a ∈ [Sample.person, Sample.signIn], Sample.federation.AgreeOn Sample.material .idp a) ∧
      (Sample.engine.trusting Ed25519.scheme Sample.federation).identify [Sample.person, Sample.signIn]
        "request-1" .level1 = .ok Sample.identity ∧
      (Sample.federation.withKey .hub ⟨"hub-1", []⟩).rings.get? .idp = Sample.federation.rings.get? .idp ∧
      (Sample.engine.trusting Ed25519.scheme (Sample.federation.withKey .hub ⟨"hub-1", []⟩)).identify
        [Sample.person, Sample.signIn] "request-1" .level1 = .ok Sample.identity ∧
      Sample.federation.key? .idp "idp-3" = none ∧
      (Sample.engine.trusting Ed25519.scheme (Sample.federation.withKey .idp ⟨"idp-3", []⟩)).identify
        [Sample.person, Sample.signIn] "request-1" .level1 = .ok Sample.identity ∧
      Sample.federation.key? .idp "idp-2" = some ⟨"idp-2", []⟩ ∧
      (∀ a ∈ [Sample.person, Sample.signIn], ∀ s, a.signature = some s → s.keyId ≠ "idp-2") ∧
      (Sample.engine.trusting Ed25519.scheme (Sample.federation.withKey .idp ⟨"idp-2", [1]⟩)).identify
        [Sample.person, Sample.signIn] "request-1" .level1 = .ok Sample.identity := by
  have other : ∀ a ∈ [Sample.person, Sample.signIn], ∀ s, a.signature = some s → s.keyId ≠ "idp-2" := by
    decide
  have agree : ∀ a ∈ [Sample.person, Sample.signIn], Sample.federation.AgreeOn Sample.material .idp a :=
    fun a member => Material.agreeOn_withKey (by decide) (other a member)
  obtain ⟨same, -, -, -⟩ := identify_local Sample.engine Ed25519.scheme Sample.material
    [Sample.person, Sample.signIn] "request-1" .level1
  obtain ⟨-, hub, grown, replaced⟩ := identify_local Sample.engine Ed25519.scheme Sample.federation
    [Sample.person, Sample.signIn] "request-1" .level1
  have accepted := (same Sample.federation agree).trans Sample.identify
  have absent : Sample.federation.key? .idp "idp-3" = none := by decide
  have present : Sample.federation.key? .idp "idp-2" = some ⟨"idp-2", []⟩ := by decide
  have ring : (Sample.federation.withKey .hub ⟨"hub-1", []⟩).rings.get? .idp =
      Sample.federation.rings.get? .idp := by
    rw [Material.withKey, Table.get?_put, if_neg (by decide)]
  exact ⟨agree, accepted, ring, (hub _ ring).trans accepted, absent, grown ⟨"idp-3", []⟩ _ absent accepted, present, other,
    (replaced ⟨"idp-2", [1]⟩ _ present other).trans accepted⟩

end RelyingParty
