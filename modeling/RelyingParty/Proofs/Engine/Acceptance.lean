import RelyingParty.Proofs.Engine.Checks
import RelyingParty.Proofs.Engine.Run
import RelyingParty.Proofs.Schema.Agreement
import RelyingParty.Proofs.Trust.Verifier

/-!
# What the standard engine accepts

The standard engine identifies a bundle exactly when it consists of two valid assertions, one that
proves a sign-in and one with the identity, that agree with each other and reach the minimum level.
-/

namespace RelyingParty
set_option autoImplicit false
open Trust

/-- An assertion has its fields, the signature of a trusted identity provider, a subject that is
confirmed for the request, and attributes that follow the schema. -/
structure Valid (scheme : Signing.Scheme) (keys : List (SignerRole × Signing.PublicKey))
    (clock : Confirmation.Clock) (expected : String) (a : Assertion) : Prop where
  issueInstant : a.issueInstant ≠ none
  id : Present a.id
  issuer : Present a.issuer
  version : a.version = some .v2_0
  signature : ∃ s key, a.signature = some s ∧ Material.LastAdded keys .idp key ∧ key.kid = s.keyId ∧
    scheme.verify key.bytes a.signedBytes s.value = .ok ()
  subject : ∃ s data latest earliest, a.subject = some s ∧
    Confirmation.Confirms clock expected s data latest earliest
  attributes : Schema.Conforms a

/-- The only sign-in that an assertion proves claims a level that is at least the minimum. -/
def Reaches (authn : Assertion) (minimum : AssuranceLevel) : Prop :=
  ∃ statement level, authn.authnStatements = [statement] ∧
    statement.contextClassRef = some (AssuranceLevel.context level) ∧ minimum.rank ≤ level.rank

theorem validate_standard_eq_ok_iff {scheme : Signing.Scheme}
    {keys : List (SignerRole × Signing.PublicKey)}
    {clock : Confirmation.Clock} {expected : String} {a : Assertion} :
    (Engine.standard scheme (.ofKeys keys) clock).validate a expected .idp = .ok () ↔
      Valid scheme keys clock expected a := by
  have wired : (Engine.standard scheme (.ofKeys keys) clock).validate a expected .idp = .ok () ↔
      checkFields a = .ok () ∧ (Material.ofKeys keys).verify scheme a .idp = .ok () ∧
        Confirmation.check clock a.subject expected = .ok () ∧ Schema.check a = .ok () :=
    Engine.validate_eq_ok_iff _
  rw [wired, checkFields_eq_ok_iff, Material.verify_eq_ok_iff, Confirmation.check_eq_ok_iff,
    Schema.check_eq_ok_iff]
  simp only [Material.key?_ofKeys_eq_some_iff, and_assoc]
  constructor
  · rintro ⟨issueInstant, id, issuer, version, signature, subject, attributes⟩
    exact ⟨issueInstant, id, issuer, version, signature, subject, attributes⟩
  · rintro ⟨issueInstant, id, issuer, version, signature, subject, attributes⟩
    exact ⟨issueInstant, id, issuer, version, signature, subject, attributes⟩

/-- **The standard engine accepts exactly the bundles of two valid assertions that agree** and reach the
minimum level. -/
theorem identify_standard_ok_iff (scheme : Signing.Scheme)
    (keys : List (SignerRole × Signing.PublicKey))
    (clock : Confirmation.Clock) (bundle : List Assertion) (expected : String)
    (minimum : AssuranceLevel) :
    (∃ i, (Engine.standard scheme (.ofKeys keys) clock).identify bundle expected minimum = .ok i) ↔
      ∃ authn identity,
        bundle.Perm [authn, identity] ∧ authn.authnStatements ≠ [] ∧ identity.authnStatements = [] ∧
          Valid scheme keys clock expected authn ∧ Valid scheme keys clock expected identity ∧
          authn.issuer = identity.issuer ∧ authn.nameId = identity.nameId ∧ Reaches authn minimum := by
  simp only [Engine.identify_eq_ok_iff, validate_standard_eq_ok_iff, splitBundle_eq_ok_iff_perm,
    checkAgreement_eq_ok_iff, sufficientLevel_eq_ok_iff, claimedLevel_eq_ok_iff, persistentId_eq_ok_iff]
  constructor
  · rintro ⟨_, authn, identity, level, pid, dataset, ⟨parts, signIn, none⟩, authnValid, identityValid,
      ⟨issuer, nameId⟩, ⟨⟨statement, only, context⟩, enough⟩, -, -, -⟩
    exact ⟨authn, identity, parts, signIn, none, authnValid, identityValid, issuer, nameId,
      statement, level, only, context, enough⟩
  · rintro ⟨authn, identity, parts, signIn, none, authnValid, identityValid, issuer, nameId,
      statement, level, only, context, enough⟩
    obtain ⟨dataset, extracted, -⟩ :=
      Schema.exists_extract (role_eq_identity_iff.2 none) identityValid.attributes
    have present : Present identity.nameId := by
      obtain ⟨s, _, _, _, holds, confirms⟩ := identityValid.subject
      rw [Assertion.nameId, holds]
      exact confirms.nameId
    obtain ⟨pid, named, -⟩ := id present
    exact ⟨_, authn, identity, level, pid, dataset, ⟨parts, signIn, none⟩, authnValid, identityValid,
      ⟨issuer, nameId⟩, ⟨⟨statement, only, context⟩, enough⟩, ⟨named, present⟩, extracted, rfl⟩

end RelyingParty
