import RelyingParty.Engine.Outcome
import RelyingParty.Proofs.Success

/-!
# Runs of an engine

A run gives the same answer after any log, and adds the same calls to it. So the answer and the calls of
a run are put together from those of its parts, and an engine identifies a bundle exactly when every
check in it succeeds.
-/

namespace RelyingParty
set_option autoImplicit false
open Trust

namespace Run

variable {α β ε : Type}

/-- The calls made after an answer, which are none when it is a failure. -/
def onward (answer : Except ε α) (calls : α → List Call) : List Call :=
  match answer with
  | .ok a => calls a
  | .error _ => []

theorem onward_mapError {ε' : Type} (answer : Except ε α) (f : ε → ε') (calls : α → List Call) :
    onward (answer.mapError f) calls = onward answer calls := by
  cases answer with
  | ok a => rfl
  | error e => rfl

theorem mem_onward {answer : Except ε α} {calls : α → List Call} {c : Call} :
    c ∈ onward answer calls ↔ ∃ a, answer = .ok a ∧ c ∈ calls a := by
  cases answer with
  | error failure => exact iff_of_false List.not_mem_nil nofun
  | ok a => simp only [onward, Except.ok.injEq, exists_eq_left']

/-- After any log, a run gives an answer and adds calls to the log. -/
def Does (run : Run α) (answer : Except ValidationFailure α) (calls : List Call) : Prop :=
  ∀ log, ExceptT.run run log = (answer, log ++ calls)

theorem Does.result {run : Run α} {answer : Except ValidationFailure α} {calls : List Call}
    (does : Does run answer calls) : run.result = answer :=
  congrArg Prod.fst (does [])

theorem Does.calls {run : Run α} {answer : Except ValidationFailure α} {calls : List Call}
    (does : Does run answer calls) : run.calls = calls :=
  congrArg Prod.snd (does [])

theorem does_pure (a : α) : Does (pure a) (.ok a) [] := by
  intro log
  rw [List.append_nil]
  rfl

theorem does_check (answer : Except ValidationFailure α) : Does (check answer) answer [] := by
  intro log
  rw [List.append_nil]
  cases answer with
  | ok a => rfl
  | error e => rfl

theorem does_call (c : Call) (answer : Except ε α) (failure : ε → ValidationFailure) :
    Does (call c answer failure) (answer.mapError failure) [c] := by
  intro log
  cases answer with
  | ok a => rfl
  | error e => rfl

/-- A sequence of runs goes on after the first one only when that succeeds. -/
theorem Does.bind {run : Run α} {next : α → Run β} {answer : Except ValidationFailure α}
    {answers : α → Except ValidationFailure β} {calls : List Call} {more : α → List Call}
    (first : Does run answer calls) (rest : ∀ a, Does (next a) (answers a) (more a)) :
    Does (run >>= next) (answer >>= answers) (calls ++ onward answer more) := by
  intro log
  rw [ExceptT.run_bind]
  simp only [Bind.bind, StateT.bind, first log]
  cases answer with
  | error e =>
    rw [onward, List.append_nil]
    rfl
  | ok a =>
    rw [onward, ← List.append_assoc]
    exact rest a (log ++ calls)

end Run

namespace Engine

variable (e : Engine)

/-- The calls of a validation, each made only after the ones before it were answered well. -/
def validateCalls (a : Assertion) (expected : String) (role : SignerRole) : List Call :=
  Run.onward (checkFields a) fun _ =>
    .signature a role :: Run.onward (e.signature.verify a role) fun _ =>
      .subject a.subject expected :: Run.onward (e.subject a.subject expected) fun _ => [.attributes a]

theorem does_validateRun (a : Assertion) (expected : String) (role : SignerRole) :
    Run.Does (e.validateRun a expected role)
      (do
        checkFields a
        (e.signature.verify a role).mapError (.invalidSignature a.idText)
        (e.subject a.subject expected).mapError (.invalidSubject a.idText)
        (e.attributes a).mapError (.invalidAttributeStatement a.idText))
      (e.validateCalls a expected role) := by
  have attributes := Run.does_call (.attributes a) (e.attributes a) (.invalidAttributeStatement a.idText)
  have subject := (Run.does_call (.subject a.subject expected) (e.subject a.subject expected)
    (.invalidSubject a.idText)).bind fun _ => attributes
  have signature := (Run.does_call (.signature a role) (e.signature.verify a role)
    (.invalidSignature a.idText)).bind fun _ => subject
  have fields := (Run.does_check (checkFields a)).bind fun _ => signature
  simp only [Run.onward_mapError] at fields
  exact fields

/-- Validation checks the fields, and then asks about the signature, the subject and the attributes. -/
theorem validate_eq (a : Assertion) (expected : String) (role : SignerRole) :
    e.validate a expected role = (do
      checkFields a
      (e.signature.verify a role).mapError (.invalidSignature a.idText)
      (e.subject a.subject expected).mapError (.invalidSubject a.idText)
      (e.attributes a).mapError (.invalidAttributeStatement a.idText)) :=
  (e.does_validateRun a expected role).result

theorem validate_eq_ok_iff {a : Assertion} {expected : String} {role : SignerRole} :
    e.validate a expected role = .ok () ↔
      checkFields a = .ok () ∧ e.signature.verify a role = .ok () ∧
        e.subject a.subject expected = .ok () ∧ e.attributes a = .ok () := by
  simp only [validate_eq, bind_eq_ok_iff, exists_unit_iff, mapError_eq_ok_iff]

/-- An assertion whose subject is rejected, with all before it in order, is not valid for that. -/
theorem validate_eq_error_of_subject {a : Assertion} {expected : String} {role : SignerRole}
    {source : SubjectError} (fields : checkFields a = .ok ())
    (signature : e.signature.verify a role = .ok ()) (rejected : e.subject a.subject expected = .error source) :
    e.validate a expected role = .error (.invalidSubject a.idText source) := by
  rw [validate_eq, fields, signature, rejected]
  rfl

/-- The calls of an identification: both validations, and the extraction when nothing failed. -/
def identifyCalls (bundle : List Assertion) (expected : String) (minimum : AssuranceLevel) :
    List Call :=
  Run.onward (splitBundle bundle) fun (authn, identity) =>
    e.validateCalls authn expected .idp ++ Run.onward (e.validate authn expected .idp) fun _ =>
      e.validateCalls identity expected .idp ++ Run.onward (e.validate identity expected .idp) fun _ =>
        Run.onward (checkAgreement authn identity) fun _ =>
          Run.onward (sufficientLevel authn minimum) fun _ =>
            Run.onward (persistentId identity) fun _ => [.extract identity]

/-- Identification splits the bundle, validates both assertions, compares them, and extracts last. -/
theorem does_identifyRun (bundle : List Assertion) (expected : String) (minimum : AssuranceLevel) :
    Run.Does (e.identifyRun bundle expected minimum)
      (do
        let (authn, identity) ← splitBundle bundle
        e.validate authn expected .idp
        e.validate identity expected .idp
        checkAgreement authn identity
        let level ← sufficientLevel authn minimum
        let pid ← persistentId identity
        let dataset ← (e.extract identity).mapError (.invalidAttributeStatement identity.idText)
        return ⟨.identityVerified, pid, level, dataset.canonical⟩)
      (e.identifyCalls bundle expected minimum) := by
  apply (Run.does_check (splitBundle bundle)).bind
  rintro ⟨authn, identity⟩
  have validates (a : Assertion) : Run.Does (e.validateRun a expected .idp) (e.validate a expected .idp)
      (e.validateCalls a expected .idp) := by
    rw [validate_eq]
    exact e.does_validateRun a expected .idp
  apply (validates authn).bind
  intro _
  apply (validates identity).bind
  intro _
  apply (Run.does_check (checkAgreement authn identity)).bind
  intro _
  apply (Run.does_check (sufficientLevel authn minimum)).bind
  intro level
  apply (Run.does_check (persistentId identity)).bind
  intro pid
  have extract := (Run.does_call (.extract identity) (e.extract identity)
    (.invalidAttributeStatement identity.idText)).bind fun dataset =>
      Run.does_pure (⟨.identityVerified, pid, level, dataset.canonical⟩ : VerifiedIdentity)
  have last (answer : Except ValidationFailure IdentityDataset) :
      Run.onward answer (fun _ => []) = [] := by
    cases answer with
    | ok a => rfl
    | error e => rfl
  rw [last, List.append_nil] at extract
  exact extract

/-- A bundle is identified exactly when every check succeeds, and then from what the checks gave. -/
theorem identify_eq_ok_iff {bundle : List Assertion} {expected : String} {minimum : AssuranceLevel}
    {i : VerifiedIdentity} :
    e.identify bundle expected minimum = .ok i ↔
      ∃ authn identity level pid dataset,
        splitBundle bundle = .ok (authn, identity) ∧ e.validate authn expected .idp = .ok () ∧
          e.validate identity expected .idp = .ok () ∧ checkAgreement authn identity = .ok () ∧
          sufficientLevel authn minimum = .ok level ∧ persistentId identity = .ok pid ∧
          e.extract identity = .ok dataset ∧
          ⟨.identityVerified, pid, level, dataset.canonical⟩ = i := by
  rw [identify, (e.does_identifyRun bundle expected minimum).result]
  simp only [bind_eq_ok_iff, exists_unit_iff, mapError_eq_ok_iff]
  constructor
  · rintro ⟨⟨authn, identity⟩, split, authnValid, identityValid, agreement, level, sufficient, pid,
      persistent, dataset, extracted, answer⟩
    exact ⟨authn, identity, level, pid, dataset, split, authnValid, identityValid, agreement,
      sufficient, persistent, extracted, Except.ok.inj answer⟩
  · rintro ⟨authn, identity, level, pid, dataset, split, authnValid, identityValid, agreement,
      sufficient, persistent, extracted, rfl⟩
    exact ⟨(authn, identity), split, authnValid, identityValid, agreement, level, sufficient, pid,
      persistent, dataset, extracted, rfl⟩

/-- A bundle whose authentication assertion is not valid is rejected for that. -/
theorem identify_eq_error_of_authn {bundle : List Assertion} {authn identity : Assertion}
    {expected : String} {minimum : AssuranceLevel} {failure : ValidationFailure}
    (split : splitBundle bundle = .ok (authn, identity))
    (invalid : e.validate authn expected .idp = .error failure) :
    e.identify bundle expected minimum = .error failure := by
  rw [identify, (e.does_identifyRun bundle expected minimum).result, split]
  simp only [ok_bind, invalid, error_bind]

end Engine
end RelyingParty
