import RelyingParty.Proofs.Engine.Authenticity
import RelyingParty.Proofs.Engine.Checks
import RelyingParty.Proofs.Engine.Run

/-!
# A bundle answers one request

The subject of an accepted sign-in is confirmed in answer to the request that was expected. Nothing that is
checked before depends on the request, so an engine that expects another one rejects the bundle there.
-/

namespace RelyingParty
set_option autoImplicit false
open Trust

/-- **A bundle answers exactly one request.** What the standard engine accepts in answer to a request, it
rejects in answer to any other one and at any level, since the sign-in names the one. So no two requests are
answered by one bundle. -/
theorem rejected_for_other_request {scheme : Signing.Scheme} {m : Material} {clock : Confirmation.Clock}
    {bundle : List Assertion} {expected : String} {minimum : AssuranceLevel} {i : VerifiedIdentity}
    (accepted : (Engine.standard scheme m clock).identify bundle expected minimum = .ok i) :
    (∃ authn id, withRole .authn bundle = [authn] ∧ authn.id = some id ∧
        ∀ other, other ≠ expected → ∀ least,
          (Engine.standard scheme m clock).identify bundle other least =
            .error (.invalidSubject id (.inResponseToMismatch other expected))) ∧
      ∀ other least j,
        (Engine.standard scheme m clock).identify bundle other least = .ok j → other = expected := by
  obtain ⟨authn, identity, _, _, _, split, valid, -⟩ := (Engine.identify_eq_ok_iff _).1 accepted
  obtain ⟨fields, signature, confirmed, -⟩ := (Engine.validate_eq_ok_iff _).1 valid
  obtain ⟨onlyAuthn, -⟩ := splitBundle_eq_ok_iff.1 split
  obtain ⟨-, present, -, -⟩ := checkFields_eq_ok_iff.1 fields
  obtain ⟨id, named, -⟩ := id present
  have text : authn.idText = id := by
    rw [Assertion.idText, named]
    rfl
  have rejected (other : String) (differ : other ≠ expected) (least : AssuranceLevel) :
      (Engine.standard scheme m clock).identify bundle other least =
        .error (.invalidSubject id (.inResponseToMismatch other expected)) := by
    rw [← text]
    apply Engine.identify_eq_error_of_authn _ split
    exact Engine.validate_eq_error_of_subject _ fields signature (Confirmation.check_of_other confirmed differ)
  refine ⟨⟨authn, id, onlyAuthn, named, rejected⟩, ?_⟩
  intro other least j again
  by_contra differ
  rw [rejected other differ least] at again
  cases again

theorem rejected_for_other_request_sample :
    (Engine.standard Signing.Ed25519.scheme Sample.material ⟨Sample.now, .seconds 0⟩).identify
        [Sample.person, Sample.signIn] "request-1" .level1 = .ok Sample.identity ∧
      ∃ authn id, withRole .authn [Sample.person, Sample.signIn] = [authn] ∧ authn.id = some id ∧
        ∀ other, other ≠ "request-1" → ∀ least,
          (Engine.standard Signing.Ed25519.scheme Sample.material ⟨Sample.now, .seconds 0⟩).identify
            [Sample.person, Sample.signIn] other least =
              .error (.invalidSubject id (.inResponseToMismatch other "request-1")) := by
  have accepted : (Engine.standard Signing.Ed25519.scheme Sample.material ⟨Sample.now, .seconds 0⟩).identify
      [Sample.person, Sample.signIn] "request-1" .level1 = .ok Sample.identity := Sample.identify
  obtain ⟨rejected, -⟩ := rejected_for_other_request accepted
  exact ⟨accepted, rejected⟩

end RelyingParty
