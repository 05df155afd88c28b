import RelyingParty.Proofs.Signing.Ed25519
import RelyingParty.Proofs.Trust.Registry

/-!
# What a verifier against trust material answers

A signature is judged by the last key that was added for its role under its identifier. When there is none,
the error tells whether the role has any keys at all. When there is one, only the signature scheme can
refuse: that the key has another identifier cannot happen, because material keeps a key in the slot of its own,
and that there is nothing to verify cannot happen either, because writing never fails.
-/

namespace RelyingParty.Trust
set_option autoImplicit false
open Signing

/-- The answer to an assertion whose signature is checked for a role, by the keys that were added in order. -/
inductive Answered (keys : List (SignerRole × PublicKey)) (role : SignerRole) (a : Assertion) :
    Except SignatureError Unit → Prop where
  | unsigned (none : a.signature = none) : Answered keys role a (.error .missingSignature)
  | untrusting {s : AssertionSignature} (signed : a.signature = some s)
    (none : ∀ key, (role, key) ∉ keys) : Answered keys role a (.error (.noTrustedKeys role))
  | unknown {s : AssertionSignature} {other : PublicKey} (signed : a.signature = some s)
    (some : (role, other) ∈ keys) (none : ∀ key, (role, key) ∈ keys → key.kid ≠ s.keyId) :
    Answered keys role a (.error (.unknownSigningKey role s.keyId))
  | accepted {s : AssertionSignature} {key : PublicKey} (signed : a.signature = some s)
    (last : Material.LastAdded keys role key) (named : key.kid = s.keyId)
    (verifies : Ed25519.Verifies key.bytes a.signedBytes s.value) : Answered keys role a (.ok ())
  | refused {s : AssertionSignature} {key : PublicKey} {fault : SignatureFault}
    (signed : a.signature = some s) (last : Material.LastAdded keys role key) (named : key.kid = s.keyId)
    (flawed : Ed25519.Flawed key.bytes a.signedBytes s.value fault) :
    Answered keys role a (.error (.invalid (.invalid fault)))

namespace Material

variable {keys : List (SignerRole × PublicKey)} {role : SignerRole} {a : Assertion} {s : AssertionSignature}
  {key : PublicKey} {scheme : Scheme} {m : Material}

/-- Nothing is found for a role under an identifier that none of its keys has. -/
theorem key?_ofKeys_eq_none_iff {kid : String} :
    (ofKeys keys).key? role kid = none ↔ ∀ key, (role, key) ∈ keys → key.kid ≠ kid := by
  rw [Option.eq_none_iff_forall_ne_some]
  simp only [ne_eq, key?_ofKeys_eq_some_iff]
  rw [← not_exists, exists_lastAdded_iff]
  simp only [not_exists, not_and]

/-- A role has no trusted keys when none was added for it. -/
theorem keyCount_ofKeys_eq_zero_iff : (ofKeys keys).keyCount role = 0 ↔ ∀ key, (role, key) ∉ keys := by
  rw [keyCount_eq_length_kids, List.length_eq_zero_iff, List.eq_nil_iff_forall_not_mem]
  simp only [(answersAs_ofKeys keys).mem_kids_iff, mem_kidsFor_iff]
  constructor
  · intro none key member
    exact none key.kid ⟨key, member, rfl⟩
  · rintro none kid ⟨key, member, -⟩
    exact none key member

/-- A key that is found for a signature is checked against it by the scheme alone. -/
theorem checkAssertion_of_key? (signed : a.signature = some s) (found : m.key? role s.keyId = some key) :
    key.checkAssertion scheme a = (scheme.verify key.bytes a.signedBytes s.value).mapError .invalid :=
  key.checkAssertion_of_kid scheme signed (kid_of_key? found).symm

/-- A key that is found for a signature finds fault with nothing but the signature itself. -/
theorem checkAssertion_eq_error_iff (signed : a.signature = some s)
    (found : m.key? role s.keyId = some key) {failure : CheckFault} :
    key.checkAssertion Ed25519.scheme a = .error failure ↔
      ∃ fault, failure = .invalid fault ∧ Ed25519.Flawed key.bytes a.signedBytes s.value fault := by
  simp only [checkAssertion_of_key? signed found, mapError_eq_error_iff, Ed25519.verify_eq_error_iff]
  constructor
  · rintro ⟨fault, flawed, rfl⟩
    exact ⟨fault, rfl, flawed⟩
  · rintro ⟨fault, rfl, flawed⟩
    exact ⟨fault, flawed, rfl⟩

theorem verify_of_key? (signed : a.signature = some s) (found : m.key? role s.keyId = some key) :
    m.verify scheme a role =
      (scheme.verify key.bytes a.signedBytes s.value).mapError fun fault => .invalid (.invalid fault) := by
  simp only [verify, signed, if_neg (keyCount_ne_zero found), found, checkAssertion_of_key? signed found]
  cases scheme.verify key.bytes a.signedBytes s.value <;> rfl

theorem verify_of_answered {answer : Except SignatureError Unit} (answered : Answered keys role a answer) :
    (ofKeys keys).verify Ed25519.scheme a role = answer := by
  cases answered with
  | unsigned none => rw [verify, none]
  | untrusting signed none =>
    simp only [verify, signed, if_pos (keyCount_ofKeys_eq_zero_iff.2 none)]
  | unknown signed some none =>
    have trusting : (ofKeys keys).keyCount role ≠ 0 := fun empty =>
      keyCount_ofKeys_eq_zero_iff.1 empty _ some
    simp only [verify, signed, if_neg trusting, key?_ofKeys_eq_none_iff.2 none]
  | accepted signed last named verifies =>
    rw [verify_of_key? signed (key?_ofKeys_eq_some_iff.2 ⟨last, named⟩)]
    exact congrArg (Except.mapError _) (Ed25519.verify_of_verifies verifies)
  | refused signed last named flawed =>
    rw [verify_of_key? signed (key?_ofKeys_eq_some_iff.2 ⟨last, named⟩)]
    exact congrArg (Except.mapError _) (Ed25519.verify_of_flawed flawed)

/-- There is an answer to every assertion. -/
theorem exists_answered (keys : List (SignerRole × PublicKey)) (role : SignerRole) (a : Assertion) :
    ∃ answer, Answered keys role a answer := by
  cases signed : a.signature with
  | none => exact ⟨_, .unsigned signed⟩
  | some s =>
    cases found : (ofKeys keys).key? role s.keyId with
    | none =>
      have unnamed := key?_ofKeys_eq_none_iff.1 found
      by_cases trusting : ∃ key, (role, key) ∈ keys
      · obtain ⟨other, member⟩ := trusting
        exact ⟨_, .unknown signed member unnamed⟩
      · exact ⟨_, .untrusting signed (not_exists.1 trusting)⟩
    | some key =>
      obtain ⟨last, named⟩ := key?_ofKeys_eq_some_iff.1 found
      rcases Ed25519.verifies_or_flawed key.bytes a.signedBytes s.value with verifies | ⟨fault, flawed⟩
      · exact ⟨_, .accepted signed last named verifies⟩
      · exact ⟨_, .refused signed last named flawed⟩

theorem verify_eq_iff_answered {answer : Except SignatureError Unit} :
    (ofKeys keys).verify Ed25519.scheme a role = answer ↔ Answered keys role a answer := by
  refine ⟨?_, verify_of_answered⟩
  rintro rfl
  obtain ⟨answer, answered⟩ := exists_answered keys role a
  rw [verify_of_answered answered]
  exact answered

end Material

/-- **The answer of the verifier is exact, and its last step cannot fail but for the signature.** Whatever
keys were added, the answer to an assertion is the one that the history of additions gives. What is signed can
always be written. The key that is found for a signature, when it checks the assertion, neither misses a
signature nor its own identifier nor something to verify: it finds fault with nothing but the signature itself.
So an invalid signature is one that Ed25519 refuses under the last key added. -/
theorem verify_is_exact (keys : List (SignerRole × PublicKey)) (a : Assertion) (role : SignerRole) :
    (∀ answer, (TrustSource.fixed (.ofKeys keys)).verify Ed25519.scheme a role = answer ↔
        Answered keys role a answer) ∧
      a.signingInput = .ok a.signedBytes ∧
      (∀ s key, a.signature = some s → (Material.ofKeys keys).key? role s.keyId = some key →
        key.checkAssertion Ed25519.scheme a ≠ .error .missingSignature ∧
          (∀ expected actual,
            key.checkAssertion Ed25519.scheme a ≠ .error (.keyIdMismatch expected actual)) ∧
          (∀ fault, key.checkAssertion Ed25519.scheme a ≠ .error (.serialization fault)) ∧
          ∀ failure, key.checkAssertion Ed25519.scheme a = .error failure ↔
            ∃ fault, failure = .invalid fault ∧ Ed25519.Flawed key.bytes a.signedBytes s.value fault) ∧
      ∀ failure, (TrustSource.fixed (.ofKeys keys)).verify Ed25519.scheme a role = .error (.invalid failure) ↔
        ∃ s key fault, a.signature = some s ∧ Material.LastAdded keys role key ∧ key.kid = s.keyId ∧
          failure = .invalid fault ∧ Ed25519.Flawed key.bytes a.signedBytes s.value fault := by
  have exact_answer (answer : Except SignatureError Unit) :
      (TrustSource.fixed (.ofKeys keys)).verify Ed25519.scheme a role = answer ↔
        Answered keys role a answer :=
    Material.verify_eq_iff_answered
  refine ⟨exact_answer, a.signingInput_eq, ?_, ?_⟩
  · intro s key signed found
    have failing (failure : CheckFault) : key.checkAssertion Ed25519.scheme a = .error failure ↔
        ∃ fault, failure = .invalid fault ∧ Ed25519.Flawed key.bytes a.signedBytes s.value fault :=
      Material.checkAssertion_eq_error_iff signed found
    have never {failure : CheckFault} (other : ∀ fault, failure ≠ .invalid fault) :
        key.checkAssertion Ed25519.scheme a ≠ .error failure := by
      intro returned
      obtain ⟨fault, same, -⟩ := (failing failure).1 returned
      exact other fault same
    exact ⟨never nofun, fun _ _ => never nofun, fun _ => never nofun, failing⟩
  · intro failure
    rw [exact_answer]
    constructor
    · intro answered
      cases answered with
      | refused signed last named flawed => exact ⟨_, _, _, signed, last, named, rfl, flawed⟩
    · rintro ⟨s, key, fault, signed, last, named, rfl, flawed⟩
      exact .refused signed last named flawed

end RelyingParty.Trust
