import Mathlib.Data.Set.Insert
import RelyingParty.Proofs.Assertion.Signed
import RelyingParty.Proofs.Engine.Checks
import RelyingParty.Proofs.Engine.Run
import RelyingParty.Proofs.Trust.Verifier
import RelyingParty.Signing.Ed25519

/-!
# Released identities are authentic

Whatever its other collaborators do, an engine that verifies against trust material releases an identity
only from two assertions that holders of identity provider keys signed with just this content.
-/

namespace RelyingParty
set_option autoImplicit false
open Signing Trust

/-- A signature in a bundle that verifies under the key trusted for its identifier is on the signed bytes of an
assertion that was signed under that identifier. -/
def Unforgeable (scheme : Scheme) (m : Material) (signed : Set (String × Assertion))
    (bundle : List Assertion) : Prop :=
  ∀ a ∈ bundle, ∀ s key, a.signature = some s → m.key? .idp s.keyId = some key →
    scheme.verify key.bytes a.signedBytes s.value = .ok () →
    ∃ b, (s.keyId, b) ∈ signed ∧ a.signedBytes = b.signedBytes

/-- The signature of an assertion names a key trusted for identity providers, and an assertion with the
same content was signed under that name. -/
def Authentic (m : Material) (signed : Set (String × Assertion)) (a : Assertion) : Prop :=
  ∃ s key b, a.signature = some s ∧ m.key? .idp s.keyId = some key ∧ (s.keyId, b) ∈ signed ∧
    a.SameContent b

section
variable {scheme : Scheme} {m : Material} {signed : Set (String × Assertion)} {bundle : List Assertion}

theorem authentic_of_verify (unforgeable : Unforgeable scheme m signed bundle)
    (legible : ∀ a ∈ bundle, a.Legible) (legibleSigned : ∀ p ∈ signed, p.2.Legible) {a : Assertion}
    (member : a ∈ bundle) (accepted : m.verify scheme a .idp = .ok ()) : Authentic m signed a := by
  obtain ⟨s, key, holds, found, verifies⟩ := Material.verify_eq_ok_iff.1 accepted
  obtain ⟨b, original, same⟩ := unforgeable a member s key holds found verifies
  exact ⟨s, key, b, holds, found, original,
    Assertion.sameContent_of_signedBytes (legible a member) (legibleSigned _ original) same⟩

/-- **Every released identity is authentic.** Both assertions of an accepted bundle have the content of
signed ones, and the identity is made of what these two say. -/
theorem authentic_of_identify (unforgeable : Unforgeable scheme m signed bundle)
    (legible : ∀ a ∈ bundle, a.Legible) (legibleSigned : ∀ p ∈ signed, p.2.Legible) (subject : SubjectCheck)
    (attributes : AttributeCheck) (extract : Extraction) (expected : String) (minimum : AssuranceLevel)
    {i : VerifiedIdentity}
    (released :
      Engine.identify ⟨.ofMaterial scheme m, subject, attributes, extract⟩ bundle expected minimum = .ok i) :
    ∃ authn identity dataset,
      withRole .authn bundle = [authn] ∧ withRole .identity bundle = [identity] ∧
        Authentic m signed authn ∧ Authentic m signed identity ∧
        claimedLevel authn = .ok i.levelOfAssurance ∧ identity.nameId = some i.pid ∧
        extract identity = .ok dataset ∧ dataset.canonical = i.attributes := by
  obtain ⟨authn, identity, level, pid, dataset, split, authnValid, identityValid, -, sufficient,
    persistent, extracted, rfl⟩ := (Engine.identify_eq_ok_iff _).1 released
  obtain ⟨authns, identities⟩ := splitBundle_eq_ok_iff.1 split
  have authnMember : authn ∈ bundle := List.mem_of_mem_filter (authns ▸ List.mem_singleton_self authn)
  have identityMember : identity ∈ bundle :=
    List.mem_of_mem_filter (identities ▸ List.mem_singleton_self identity)
  obtain ⟨-, authnSigned, -, -⟩ := (Engine.validate_eq_ok_iff _).1 authnValid
  obtain ⟨-, identitySigned, -, -⟩ := (Engine.validate_eq_ok_iff _).1 identityValid
  have authentic {a : Assertion} := authentic_of_verify (a := a) unforgeable legible legibleSigned
  exact ⟨authn, identity, dataset, authns, identities, authentic authnMember authnSigned,
    authentic identityMember identitySigned, (sufficientLevel_eq_ok_iff.1 sufficient).1,
    (persistentId_eq_ok_iff.1 persistent).1, extracted, rfl⟩

end

/-! ## A bundle that is released -/

namespace Sample

theorem midnight_second_lt : 0 < 86400 := by decide

theorem midnight_nano_lt : 0 < 2000000000 := by decide

/-- The first instant of a date. -/
def midnight (date : Calendar.Date) : Calendar.Instant :=
  ⟨date, 0, 0, midnight_second_lt, midnight_nano_lt⟩

/-- The start of the year 2000. -/
def now : Calendar.Instant := midnight ⟨10957, by decide, by decide⟩

/-- A day later. -/
def tomorrow : Calendar.Instant := midnight ⟨10958, by decide, by decide⟩

/-- The key of an identity provider. -/
def key : PublicKey where
  kid := "idp-1"
  bytes := [215, 90, 152, 1, 130, 177, 10, 183, 213, 75, 254, 211, 201, 100, 7, 58, 14, 225, 114, 243,
    218, 166, 35, 37, 175, 2, 26, 104, 247, 7, 81, 26]

/-- An assertion of the identity provider about a subject, in answer to a request. -/
def assertion (id : String) (signIns : List AuthnStatement) (attributes : Option AttributeStatement)
    (signature : List UInt8) : Assertion where
  id := some id
  issuer := some "https://idp.example"
  issueInstant := some now
  version := some .v2_0
  subject := some ⟨some "pid-1", [⟨bearerMethod, some ⟨some "request-1", none, some tomorrow, none⟩⟩]⟩
  authnStatements := signIns
  attributeStatement := attributes
  signature := some ⟨key.kid, signature⟩

/-- The assertion that the subject signed in. -/
def signIn : Assertion :=
  assertion "sign-in" [⟨none, some (AssuranceLevel.context .level2)⟩] none
    [55, 29, 244, 80, 138, 14, 39, 53, 83, 198, 221, 243, 186, 49, 239, 195, 135, 110, 137, 237, 96, 158,
    24, 87, 207, 96, 74, 255, 152, 72, 233, 107, 169, 115, 158, 144, 69, 51, 134, 177, 141, 209, 148, 86,
    2, 10, 56, 204, 196, 166, 253, 170, 91, 225, 201, 240, 30, 249, 214, 193, 255, 218, 29, 9]

/-- The assertion of who the subject is. -/
def person : Assertion :=
  assertion "identity" []
    (some ⟨[⟨"MDS_firstname", [.personName ⟨"Ann", true, none, none⟩]⟩,
      ⟨"MDS_dateofbirth", [.date ⟨"1970-02-28", true, none, none⟩]⟩]⟩)
    [183, 133, 167, 16, 158, 111, 75, 88, 54, 70, 145, 136, 11, 177, 239, 68, 165, 14, 242, 187, 229, 95,
    178, 79, 41, 129, 151, 201, 238, 228, 125, 238, 103, 14, 138, 213, 221, 245, 85, 110, 238, 194, 48, 72,
    54, 49, 234, 53, 102, 68, 246, 93, 209, 72, 43, 65, 243, 36, 208, 145, 132, 22, 225, 15]

/-- The bytes of the signature on an assertion. -/
def signatureOf (a : Assertion) : List UInt8 := (a.signature.map (·.value)).getD []

/-- Trust in the one identity provider. -/
def material : Material := Material.empty.withKey .idp key

/-- What the identity provider signed. -/
def signed : Set (String × Assertion) := {(key.kid, signIn), (key.kid, person)}

/-- The identity that the two assertions prove. -/
def identity : VerifiedIdentity where
  scenario := .identityVerified
  pid := "pid-1"
  levelOfAssurance := .level2
  attributes :=
    ⟨⟨"Ann", true, none, none⟩, none, [], ⟨⟨58, by decide, by decide⟩, true, none, none⟩, none, []⟩

theorem ed25519_signIn :
    Ed25519.scheme.verify key.bytes signIn.signedBytes (signatureOf signIn) = .ok () := by
  rw [Assertion.signedBytes_eq_flatMap]
  decide +kernel

theorem ed25519_person :
    Ed25519.scheme.verify key.bytes person.signedBytes (signatureOf person) = .ok () := by
  rw [Assertion.signedBytes_eq_flatMap]
  decide +kernel

theorem signature_of_mem {a : Assertion} (member : a ∈ [signIn, person]) :
    a.signature = some ⟨key.kid, signatureOf a⟩ := by
  rcases List.mem_pair.1 member with rfl | rfl
  · rfl
  · rfl

theorem unforgeable : Unforgeable Ed25519.scheme material signed [person, signIn] := by
  intro a member s key holds found verifies
  rcases List.mem_pair.1 member with rfl | rfl
  · obtain rfl := Option.some.inj holds
    exact ⟨person, .inr rfl, rfl⟩
  · obtain rfl := Option.some.inj holds
    exact ⟨signIn, .inl rfl, rfl⟩

theorem verify_material {a : Assertion} (member : a ∈ [signIn, person]) :
    material.verify Ed25519.scheme a .idp = .ok () := by
  refine Material.verify_eq_ok_iff.2 ⟨_, key, signature_of_mem member, rfl, ?_⟩
  rcases List.mem_pair.1 member with rfl | rfl
  · exact ed25519_signIn
  · exact ed25519_person

/-- The engine that trusts the identity provider, with the standard collaborators. -/
def engine : Engine :=
  ⟨.ofMaterial Ed25519.scheme material, Confirmation.check ⟨now, .seconds 0⟩, Schema.check, Schema.extract⟩

theorem validate {a : Assertion} (member : a ∈ [signIn, person]) :
    engine.validate a "request-1" .idp = .ok () := by
  refine (engine.validate_eq_ok_iff).2 ⟨?_, verify_material member, ?_, ?_⟩
  all_goals rcases List.mem_pair.1 member with rfl | rfl <;> rfl

theorem identify : engine.identify [person, signIn] "request-1" .level1 = .ok identity :=
  engine.identify_eq_ok_iff.2 ⟨signIn, person, .level2, "pid-1",
    ⟨.current "Ann" true, none, [], none, .current ⟨58, by decide, by decide⟩ true, []⟩, rfl,
    validate (by simp), validate (by simp), rfl, rfl, rfl, rfl, rfl⟩

end Sample

theorem authentic_of_identify_sample :
    Unforgeable Ed25519.scheme Sample.material Sample.signed [Sample.person, Sample.signIn] ∧
      (∀ a ∈ [Sample.person, Sample.signIn], a.Legible) ∧ (∀ p ∈ Sample.signed, p.2.Legible) ∧
      Sample.engine.identify [Sample.person, Sample.signIn] "request-1" .level1 = .ok Sample.identity ∧
      ∃ authn identity dataset,
        withRole .authn [Sample.person, Sample.signIn] = [authn] ∧
          withRole .identity [Sample.person, Sample.signIn] = [identity] ∧
          Authentic Sample.material Sample.signed authn ∧
          Authentic Sample.material Sample.signed identity ∧
          claimedLevel authn = .ok Sample.identity.levelOfAssurance ∧
          identity.nameId = some Sample.identity.pid ∧
          Schema.extract identity = .ok dataset ∧ dataset.canonical = Sample.identity.attributes := by
  have legible : ∀ a ∈ [Sample.person, Sample.signIn], a.Legible := by decide
  have legibleSigned : ∀ p ∈ Sample.signed, p.2.Legible := by
    rintro p (rfl | rfl)
    · exact legible Sample.signIn (by simp)
    · exact legible Sample.person (by simp)
  exact ⟨Sample.unforgeable, legible, legibleSigned, Sample.identify,
    authentic_of_identify Sample.unforgeable legible legibleSigned _ _ _ "request-1" .level1 Sample.identify⟩

end RelyingParty
