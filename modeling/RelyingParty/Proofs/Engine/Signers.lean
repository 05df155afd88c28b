import RelyingParty.Proofs.Engine.Authenticity
import RelyingParty.Proofs.Schema.Agreement

/-!
# Under whose keys a bundle is verified

Each assertion of an accepted bundle is verified under the trusted key that its own signature names. The
two are compared by issuer and subject, which they state themselves, and a key belongs to no issuer. So
two identity providers' assertions may answer one request together.
-/

namespace RelyingParty
set_option autoImplicit false
open Signing Trust

/-! ## The key of a signature -/

namespace Trust.Material

variable {scheme : Scheme} {m : Material} {a : Assertion} {k l : PublicKey}

/-- The signature on an assertion names a key that is trusted for identity providers, and verifies under
it. -/
structure VerifiedUnder (m : Material) (scheme : Scheme) (a : Assertion) (key : PublicKey) : Prop where
  trusted : m.key? .idp key.kid = some key
  signed : ∃ s, a.signature = some s ∧ s.keyId = key.kid ∧
    scheme.verify key.bytes a.signedBytes s.value = .ok ()

theorem verify_iff_verifiedUnder : m.verify scheme a .idp = .ok () ↔ ∃ key, m.VerifiedUnder scheme a key := by
  rw [verify_eq_ok_iff]
  constructor
  · rintro ⟨s, key, signed, found, verifies⟩
    have named := kid_of_key? found
    exact ⟨key, named ▸ found, s, signed, named.symm, verifies⟩
  · rintro ⟨key, trusted, s, signed, named, verifies⟩
    exact ⟨s, key, signed, named ▸ trusted, verifies⟩

/-- A trusted key is determined by its identifier. -/
theorem eq_iff_kid_eq (left : m.key? .idp k.kid = some k) (right : m.key? .idp l.kid = some l) :
    k = l ↔ k.kid = l.kid := by
  constructor
  · exact congrArg PublicKey.kid
  · intro same
    rw [same, right] at left
    exact (Option.some.inj left).symm

/-- The only trusted key is all keys that are found. -/
theorem eq_of_keyCount_eq_one {role : SignerRole} {kid kid' : String} (one : m.keyCount role = 1)
    (left : m.key? role kid = some k) (right : m.key? role kid' = some l) : k = l := by
  obtain ⟨ring, here, found⟩ := key?_eq_some_iff.1 left
  obtain ⟨ring', again, found'⟩ := key?_eq_some_iff.1 right
  obtain rfl := Option.some.inj (here.symm.trans again)
  rw [keyCount, here] at one
  obtain ⟨only, alone⟩ := List.length_eq_one_iff.1 one
  rw [Table.get?_eq_some_iff, alone, List.mem_singleton] at found found'
  exact (Prod.mk.inj (found.trans found'.symm)).2

end Trust.Material

/-! ## Other assertions beside a sign-in -/

/-- An assertion of who the subject is passes beside a sign-in: it is in order by itself and states the issuer
and the subject of the sign-in. Nothing here is about who signed it. -/
structure Assertion.PassesBeside (clock : Confirmation.Clock) (expected : String)
    (authn other : Assertion) : Prop where
  authnStatements : other.authnStatements = []
  fields : checkFields other = .ok ()
  subject : Confirmation.check clock other.subject expected = .ok ()
  attributes : Schema.check other = .ok ()
  issuer : authn.issuer = other.issuer
  nameId : authn.nameId = other.nameId

namespace Engine

variable {scheme : Scheme} {m : Material} {clock : Confirmation.Clock} {bundle : List Assertion}
  {expected : String} {minimum : AssuranceLevel} {i : VerifiedIdentity}

/-- The place of the identity assertion in an accepted bundle may be taken by whatever passes for it under
the signature of any trusted provider. -/
theorem identify_of_passesBeside {authn identity other : Assertion}
    (split : splitBundle bundle = .ok (authn, identity))
    (passes : authn.PassesBeside clock expected other) (verified : m.verify scheme other .idp = .ok ())
    (released : (standard scheme m clock).identify bundle expected minimum = .ok i) :
    ∃ dataset, Schema.extract other = .ok dataset ∧
      (standard scheme m clock).identify [authn, other] expected minimum =
        .ok ⟨.identityVerified, i.pid, i.levelOfAssurance, dataset.canonical⟩ := by
  obtain ⟨_, _, level, pid, _, parts, authnValid, -, agreement, sufficient, persistent, -, rfl⟩ :=
    (standard scheme m clock).identify_eq_ok_iff.1 released
  obtain ⟨rfl, rfl⟩ := Prod.mk.inj (Except.ok.inj (split.symm.trans parts))
  obtain ⟨-, signIn, -⟩ := splitBundle_eq_ok_iff_perm.1 split
  obtain ⟨-, sameNameId⟩ := checkAgreement_eq_ok_iff.1 agreement
  have otherValid : (standard scheme m clock).validate other expected .idp = .ok () :=
    (standard scheme m clock).validate_eq_ok_iff.2
      ⟨passes.fields, verified, passes.subject, passes.attributes⟩
  have otherPersistent : persistentId other = .ok pid := by
    rw [persistentId_eq_ok_iff] at persistent ⊢
    rw [← passes.nameId, sameNameId]
    exact persistent
  obtain ⟨dataset, extracted, -⟩ :=
    Schema.exists_extract (role_eq_identity_iff.2 passes.authnStatements)
      (Schema.check_eq_ok_iff.1 passes.attributes)
  have again : splitBundle [authn, other] = .ok (authn, other) :=
    splitBundle_eq_ok_iff_perm.2 ⟨.refl _, signIn, passes.authnStatements⟩
  exact ⟨dataset, extracted, (standard scheme m clock).identify_eq_ok_iff.2
    ⟨authn, other, level, pid, dataset, again, authnValid, otherValid,
      checkAgreement_eq_ok_iff.2 ⟨passes.issuer, passes.nameId⟩, sufficient, otherPersistent, extracted, rfl⟩⟩

end Engine

/-- **Each assertion is verified under the trusted key that it names**, and under one key with the other
exactly when both name the same. They state one issuer and one subject, but who signed makes no
difference to that: of any assertion that another trusted provider writes and signs, the dataset is released
with the sign-in, once it states the same issuer and subject. -/
theorem signers_of_identify {scheme : Scheme} {m : Material} {clock : Confirmation.Clock}
    {bundle : List Assertion} {expected : String} {minimum : AssuranceLevel} {i : VerifiedIdentity}
    (released : (Engine.standard scheme m clock).identify bundle expected minimum = .ok i) :
    ∃ authn identity k l,
      withRole .authn bundle = [authn] ∧ withRole .identity bundle = [identity] ∧
        m.VerifiedUnder scheme authn k ∧ m.VerifiedUnder scheme identity l ∧
        (k = l ↔ k.kid = l.kid) ∧ (m.keyCount .idp = 1 → k = l) ∧
        authn.issuer = identity.issuer ∧ authn.nameId = identity.nameId ∧
        ∀ other key, authn.PassesBeside clock expected other → m.VerifiedUnder scheme other key →
          ∃ dataset, Schema.extract other = .ok dataset ∧
            (Engine.standard scheme m clock).identify [authn, other] expected minimum =
              .ok ⟨.identityVerified, i.pid, i.levelOfAssurance, dataset.canonical⟩ := by
  obtain ⟨authn, identity, -, -, -, split, authnValid, identityValid, agreement, -⟩ :=
    (Engine.standard scheme m clock).identify_eq_ok_iff.1 released
  obtain ⟨authns, identities⟩ := splitBundle_eq_ok_iff.1 split
  obtain ⟨-, authnSigned, -⟩ := (Engine.standard scheme m clock).validate_eq_ok_iff.1 authnValid
  obtain ⟨-, identitySigned, -⟩ := (Engine.standard scheme m clock).validate_eq_ok_iff.1 identityValid
  obtain ⟨k, authnUnder⟩ := Material.verify_iff_verifiedUnder.1 authnSigned
  obtain ⟨l, identityUnder⟩ := Material.verify_iff_verifiedUnder.1 identitySigned
  obtain ⟨issuer, nameId⟩ := checkAgreement_eq_ok_iff.1 agreement
  have one_key : m.keyCount .idp = 1 → k = l := fun one =>
    Material.eq_of_keyCount_eq_one one authnUnder.trusted identityUnder.trusted
  refine ⟨authn, identity, k, l, authns, identities, authnUnder, identityUnder,
    Material.eq_iff_kid_eq authnUnder.trusted identityUnder.trusted, one_key, issuer, nameId, ?_⟩
  intro other key passes otherUnder
  have verified := Material.verify_iff_verifiedUnder.2 ⟨key, otherUnder⟩
  exact Engine.identify_of_passesBeside split passes verified released

/-! ## A bundle of two providers -/

namespace Sample

/-- The key of another identity provider. -/
def otherKey : PublicKey where
  kid := "idp-2"
  bytes := [61, 64, 23, 195, 232, 67, 137, 90, 146, 183, 10, 167, 77, 27, 126, 188, 156, 152, 44, 207, 46,
    196, 150, 140, 192, 205, 85, 241, 42, 244, 102, 12]

/-- The assertion of who the subject is, by the other provider in the name of the first. -/
def spliced : Assertion :=
  { person with
    signature := some ⟨otherKey.kid, [161, 87, 180, 85, 151, 17, 211, 24, 24, 124, 17, 14, 80, 82, 170,
      232, 1, 237, 214, 252, 85, 190, 8, 48, 27, 36, 6, 59, 141, 41, 223, 152, 151, 114, 164, 146, 119,
      19, 56, 146, 215, 207, 43, 132, 222, 204, 39, 65, 115, 217, 170, 229, 23, 121, 132, 177, 99, 45, 0,
      202, 77, 93, 146, 6]⟩ }

/-- Trust in both providers. -/
def providers : Material := .ofKeys [(.idp, key), (.idp, otherKey)]

/-- The engine that trusts both. -/
def federated : Engine := .standard Ed25519.scheme providers ⟨now, .seconds 0⟩

theorem ed25519_spliced :
    Ed25519.scheme.verify otherKey.bytes spliced.signedBytes (signatureOf spliced) = .ok () := by
  rw [Assertion.signedBytes_eq_flatMap]
  decide +kernel

theorem verifiedUnder_signIn : providers.VerifiedUnder Ed25519.scheme signIn key :=
  ⟨rfl, ⟨key.kid, signatureOf signIn⟩, rfl, rfl, ed25519_signIn⟩

theorem verifiedUnder_spliced : providers.VerifiedUnder Ed25519.scheme spliced otherKey :=
  ⟨rfl, ⟨otherKey.kid, signatureOf spliced⟩, rfl, rfl, ed25519_spliced⟩

theorem validate_federated {a : Assertion} (member : a ∈ [signIn, spliced]) :
    federated.validate a "request-1" .idp = .ok () := by
  have verified : providers.verify Ed25519.scheme a .idp = .ok () := by
    rcases List.mem_pair.1 member with rfl | rfl
    · exact Material.verify_iff_verifiedUnder.2 ⟨key, verifiedUnder_signIn⟩
    · exact Material.verify_iff_verifiedUnder.2 ⟨otherKey, verifiedUnder_spliced⟩
  refine federated.validate_eq_ok_iff.2 ⟨?_, verified, ?_, ?_⟩
  all_goals rcases List.mem_pair.1 member with rfl | rfl <;> rfl

theorem identify_spliced : federated.identify [spliced, signIn] "request-1" .level1 = .ok identity :=
  federated.identify_eq_ok_iff.2 ⟨signIn, spliced, .level2, "pid-1",
    ⟨.current "Ann" true, none, [], none, .current ⟨58, by decide, by decide⟩ true, []⟩, rfl,
    validate_federated (by simp), validate_federated (by simp), rfl, rfl, rfl, rfl, rfl⟩

end Sample

/-- An identity is released although no one key verifies both assertions. -/
theorem spliced_released :
    Sample.federated.identify [Sample.spliced, Sample.signIn] "request-1" .level1 = .ok Sample.identity ∧
      ¬∃ key, ∀ a ∈ [Sample.spliced, Sample.signIn],
        Sample.providers.VerifiedUnder Ed25519.scheme a key := by
  refine ⟨Sample.identify_spliced, ?_⟩
  rintro ⟨key, one⟩
  obtain ⟨-, _, signed, named, -⟩ := one Sample.spliced (by simp)
  obtain ⟨-, _, signed', named', -⟩ := one Sample.signIn (by simp)
  obtain rfl := Option.some.inj signed
  obtain rfl := Option.some.inj signed'
  exact absurd (named.trans named'.symm) (by decide)

theorem signers_of_identify_spliced :
    Sample.federated.identify [Sample.spliced, Sample.signIn] "request-1" .level1 = .ok Sample.identity ∧
      ∃ authn identity k l,
        withRole .authn [Sample.spliced, Sample.signIn] = [authn] ∧
          withRole .identity [Sample.spliced, Sample.signIn] = [identity] ∧
          Sample.providers.VerifiedUnder Ed25519.scheme authn k ∧
          Sample.providers.VerifiedUnder Ed25519.scheme identity l ∧
          (k = l ↔ k.kid = l.kid) ∧ (Sample.providers.keyCount .idp = 1 → k = l) ∧
          authn.issuer = identity.issuer ∧ authn.nameId = identity.nameId ∧
          ∀ other key, authn.PassesBeside ⟨Sample.now, .seconds 0⟩ "request-1" other →
            Sample.providers.VerifiedUnder Ed25519.scheme other key →
            ∃ dataset, Schema.extract other = .ok dataset ∧
              Sample.federated.identify [authn, other] "request-1" .level1 =
                .ok ⟨.identityVerified, "pid-1", .level2, dataset.canonical⟩ :=
  ⟨Sample.identify_spliced, signers_of_identify Sample.identify_spliced⟩

end RelyingParty
