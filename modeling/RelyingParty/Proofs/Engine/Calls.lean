import Mathlib.Data.List.Infix
import RelyingParty.Proofs.Engine.Authenticity
import RelyingParty.Proofs.Engine.Checks
import RelyingParty.Proofs.Engine.Run
import RelyingParty.Proofs.Schema.Agreement

/-!
# The calls of an engine

An engine asks its collaborators in one fixed order, and asks the next one only after the last answered
with success. The dataset is extracted last, so with the schema's own check and extraction it is
extracted exactly for the requests that are answered with an identity.
-/

namespace RelyingParty
set_option autoImplicit false

namespace Call

/-- The calls of a validation that goes through, in order. -/
def validation (a : Assertion) (expected : String) : List Call :=
  [.signature a .idp, .subject a.subject expected, .attributes a]

/-- The calls of an identification that goes through, in order. -/
def identification (authn identity : Assertion) (expected : String) : List Call :=
  [.signature authn .idp, .subject authn.subject expected, .attributes authn,
    .signature identity .idp, .subject identity.subject expected, .attributes identity,
    .extract identity]

/-- Whether a call asks for a dataset. -/
def isExtraction : Call → Bool
  | .extract _ => true
  | _ => false

end Call

namespace Engine

variable (e : Engine)

/-- The collaborator that is called answers with success. -/
def Grants : Call → Prop
  | .signature a role => e.signature.verify a role = .ok ()
  | .subject s expected => e.subject s expected = .ok ()
  | .attributes a => e.attributes a = .ok ()
  | .extract a => ∃ dataset, e.extract a = .ok dataset

/-! ## One request -/

/-- The calls made are a beginning of the calls planned, each but the last of them was granted, and
after a success all that was planned was made and granted. -/
structure Follows {α : Type} (planned made : List Call) (answer : Except ValidationFailure α) : Prop where
  beginning : made <+: planned
  granted : ∀ c ∈ made.dropLast, e.Grants c
  complete : ∀ a, answer = .ok a → made = planned ∧ ∀ c ∈ planned, e.Grants c

variable {e}

theorem follows_check {α : Type} (answer : Except ValidationFailure α) : e.Follows [] [] answer :=
  ⟨List.prefix_refl [], List.forall_mem_nil _, fun _ _ => ⟨rfl, List.forall_mem_nil _⟩⟩

theorem follows_call {α : Type} {c : Call} {answer : Except ValidationFailure α}
    (grants : ∀ a, answer = .ok a → e.Grants c) : e.Follows [c] [c] answer := by
  refine ⟨List.prefix_refl [c], List.forall_mem_nil _, ?_⟩
  intro a success
  exact ⟨rfl, List.forall_mem_singleton.2 (grants a success)⟩

theorem Follows.bind {α β : Type} {planned later made : List Call} {answer : Except ValidationFailure α}
    {next : α → Except ValidationFailure β} {more : α → List Call}
    (first : e.Follows planned made answer) (rest : ∀ a, e.Follows later (more a) (next a)) :
    e.Follows (planned ++ later) (made ++ Run.onward answer more) (answer >>= next) := by
  cases answer with
  | error failure =>
    rw [Run.onward, List.append_nil]
    refine ⟨first.beginning.trans (List.prefix_append planned later), first.granted, ?_⟩
    intro b success
    cases success
  | ok a =>
    obtain ⟨rfl, all⟩ := first.complete a rfl
    have second := rest a
    rw [Run.onward]
    refine ⟨(List.prefix_append_right_inj made).2 second.beginning, ?_, ?_⟩
    · -- the last call is one of the first run only when the second run makes none
      intro c hc
      by_cases none : more a = []
      · rw [none, List.append_nil] at hc
        exact all c (List.mem_of_mem_dropLast hc)
      · rw [List.dropLast_append_of_ne_nil none, List.mem_append] at hc
        rcases hc with before | after
        · exact all c before
        · exact second.granted c after
    · intro b success
      obtain ⟨same, others⟩ := second.complete b success
      rw [same]
      exact ⟨rfl, List.forall_mem_append.2 ⟨all, others⟩⟩

theorem follows_validate (a : Assertion) (expected : String) :
    e.Follows (Call.validation a expected) (e.validateCalls a expected .idp)
      (e.validate a expected .idp) := by
  have signature : e.Follows [.signature a .idp] [.signature a .idp]
      ((e.signature.verify a .idp).mapError (.invalidSignature a.idText)) :=
    follows_call fun _ success => mapError_eq_ok_iff.1 success
  have subject : e.Follows [.subject a.subject expected] [.subject a.subject expected]
      ((e.subject a.subject expected).mapError (.invalidSubject a.idText)) :=
    follows_call fun _ success => mapError_eq_ok_iff.1 success
  have attributes : e.Follows [.attributes a] [.attributes a]
      ((e.attributes a).mapError (.invalidAttributeStatement a.idText)) :=
    follows_call fun _ success => mapError_eq_ok_iff.1 success
  have all := (follows_check (e := e) (checkFields a)).bind fun _ =>
    signature.bind fun _ => subject.bind fun _ => attributes
  simp only [Run.onward_mapError] at all
  rw [validate_eq]
  exact all

theorem follows_identify {bundle : List Assertion} {authn identity : Assertion}
    (split : splitBundle bundle = .ok (authn, identity)) (expected : String) (minimum : AssuranceLevel) :
    e.Follows (Call.identification authn identity expected) (e.identifyCalls bundle expected minimum)
      (e.identify bundle expected minimum) := by
  have extract (pid : String) (level : AssuranceLevel) :
      e.Follows [.extract identity] [.extract identity] (do
        let dataset ← (e.extract identity).mapError (.invalidAttributeStatement identity.idText)
        return (⟨.identityVerified, pid, level, dataset.canonical⟩ : VerifiedIdentity)) := by
    apply follows_call
    intro i success
    obtain ⟨dataset, extracted, -⟩ := bind_eq_ok_iff.1 success
    exact ⟨dataset, mapError_eq_ok_iff.1 extracted⟩
  have checks := (follows_check (e := e) (checkAgreement authn identity)).bind fun _ =>
    (follows_check (sufficientLevel authn minimum)).bind fun level =>
      (follows_check (persistentId identity)).bind fun pid => extract pid level
  have all := (follows_validate (e := e) authn expected).bind fun _ =>
    (follows_validate identity expected).bind fun _ => checks
  rw [identify, (e.does_identifyRun bundle expected minimum).result, identifyCalls, split]
  exact all

theorem extract_not_mem_validateCalls (a x : Assertion) (expected : String) (role : Trust.SignerRole) :
    Call.extract x ∉ e.validateCalls a expected role := by
  simp only [validateCalls, Run.mem_onward, List.mem_cons, List.not_mem_nil, reduceCtorEq, false_or,
    and_false, exists_false, not_false_eq_true]

/-- The dataset of an assertion is asked for after every check of the request has succeeded. -/
theorem extract_mem_identifyCalls_iff {bundle : List Assertion} {x : Assertion} {expected : String}
    {minimum : AssuranceLevel} :
    Call.extract x ∈ e.identifyCalls bundle expected minimum ↔
      ∃ authn level pid, splitBundle bundle = .ok (authn, x) ∧ e.validate authn expected .idp = .ok () ∧
        e.validate x expected .idp = .ok () ∧ checkAgreement authn x = .ok () ∧
        sufficientLevel authn minimum = .ok level ∧ persistentId x = .ok pid := by
  simp only [identifyCalls, Run.mem_onward, List.mem_append, extract_not_mem_validateCalls, false_or,
    exists_unit_iff, List.mem_singleton, Call.extract.injEq]
  constructor
  · rintro ⟨⟨authn, identity⟩, split, authnValid, identityValid, agreement, level, sufficient, pid,
      persistent, rfl⟩
    exact ⟨authn, level, pid, split, authnValid, identityValid, agreement, sufficient, persistent⟩
  · rintro ⟨authn, level, pid, split, authnValid, identityValid, agreement, sufficient, persistent⟩
    exact ⟨(authn, x), split, authnValid, identityValid, agreement, level, sufficient, pid, persistent,
      rfl⟩

/-- Once everything planned was asked for and granted, nothing is left to fail. -/
theorem exists_identify_of_granted {bundle : List Assertion} {authn identity : Assertion}
    {expected : String} {minimum : AssuranceLevel}
    (complete : e.identifyCalls bundle expected minimum = Call.identification authn identity expected)
    (granted : ∀ c ∈ e.identifyCalls bundle expected minimum, e.Grants c) :
    ∃ i, e.identify bundle expected minimum = .ok i := by
  have asked : Call.extract identity ∈ e.identifyCalls bundle expected minimum := by
    rw [complete]
    apply List.mem_of_mem_getLast?
    rfl
  obtain ⟨dataset, extracted⟩ := granted _ asked
  obtain ⟨authn, level, pid, split, authnValid, identityValid, agreement, sufficient, persistent⟩ :=
    extract_mem_identifyCalls_iff.1 asked
  exact ⟨_, e.identify_eq_ok_iff.2 ⟨authn, identity, level, pid, dataset, split, authnValid,
    identityValid, agreement, sufficient, persistent, extracted, rfl⟩⟩

/-- What the check of the schema accepts is extracted, so no extraction fails. -/
theorem exists_identify_of_extract_mem {bundle : List Assertion} {x : Assertion} {expected : String}
    {minimum : AssuranceLevel} (check : e.attributes = Schema.check) (extract : e.extract = Schema.extract)
    (asked : Call.extract x ∈ e.identifyCalls bundle expected minimum) :
    ∃ i, e.identify bundle expected minimum = .ok i := by
  obtain ⟨authn, level, pid, split, authnValid, identityValid, agreement, sufficient, persistent⟩ :=
    extract_mem_identifyCalls_iff.1 asked
  obtain ⟨-, -, -, attributes⟩ := e.validate_eq_ok_iff.1 identityValid
  obtain ⟨-, -, role⟩ := splitBundle_eq_ok_iff_perm.1 split
  rw [check, Schema.check_eq_ok_iff] at attributes
  obtain ⟨dataset, extracted, -⟩ := Schema.exists_extract (role_eq_identity_iff.2 role) attributes
  rw [← extract] at extracted
  exact ⟨_, e.identify_eq_ok_iff.2 ⟨authn, x, level, pid, dataset, split, authnValid, identityValid,
    agreement, sufficient, persistent, extracted, rfl⟩⟩

end Engine

/-! ## Many requests -/

/-- A request to an engine with the collaborators that answer at the time. -/
structure Request where
  engine : Engine
  bundle : List Assertion
  expected : String
  minimum : AssuranceLevel

namespace Request

/-- Goes through the bundle of a request. -/
def run (r : Request) : Run VerifiedIdentity :=
  r.engine.identifyRun r.bundle r.expected r.minimum

/-- The answer to a request. -/
def answer (r : Request) : Except ValidationFailure VerifiedIdentity :=
  r.engine.identify r.bundle r.expected r.minimum

/-- The calls that a request makes. -/
def calls (r : Request) : List Call := r.run.calls

theorem does_run (r : Request) : Run.Does r.run r.answer r.calls := by
  have does := r.engine.does_identifyRun r.bundle r.expected r.minimum
  rw [answer, Engine.identify, does.result, calls, run, does.calls]
  exact does

theorem calls_eq (r : Request) : r.calls = r.engine.identifyCalls r.bundle r.expected r.minimum :=
  (r.engine.does_identifyRun r.bundle r.expected r.minimum).calls

/-- The bundle has one assertion for each role, and these are the two. -/
def Pairs (r : Request) (authn identity : Assertion) : Prop :=
  withRole .authn r.bundle = [authn] ∧ withRole .identity r.bundle = [identity]

/-- The calls of a request are a beginning of the calls planned for its two assertions, none of them
comes after one that was not granted, and an identity is answered exactly when all were made and
granted. -/
structure Orderly (r : Request) : Prop where
  unpaired : (¬∃ authn identity, r.Pairs authn identity) → r.calls = []
  beginning : ∀ authn identity, r.Pairs authn identity →
    r.calls <+: Call.identification authn identity r.expected
  granted : ∀ c ∈ r.calls.dropLast, r.engine.Grants c
  answered : (∃ i, r.answer = .ok i) ↔ ∃ authn identity, r.Pairs authn identity ∧
    r.calls = Call.identification authn identity r.expected ∧ ∀ c ∈ r.calls, r.engine.Grants c

theorem follows {r : Request} {authn identity : Assertion} (pairs : r.Pairs authn identity) :
    r.engine.Follows (Call.identification authn identity r.expected) r.calls r.answer := by
  rw [calls_eq]
  exact Engine.follows_identify (splitBundle_eq_ok_iff.2 pairs) r.expected r.minimum

theorem pairs_of_answer {r : Request} {i : VerifiedIdentity} (success : r.answer = .ok i) :
    ∃ authn identity, r.Pairs authn identity := by
  obtain ⟨authn, identity, _, _, _, split, -⟩ := r.engine.identify_eq_ok_iff.1 success
  exact ⟨authn, identity, splitBundle_eq_ok_iff.1 split⟩

theorem calls_eq_nil {r : Request} (unpaired : ¬∃ authn identity, r.Pairs authn identity) :
    r.calls = [] := by
  rw [calls_eq, Engine.identifyCalls]
  cases split : splitBundle r.bundle with
  | error failure => rfl
  | ok pair => exact absurd ⟨pair.1, pair.2, splitBundle_eq_ok_iff.1 split⟩ unpaired

theorem orderly (r : Request) : r.Orderly := by
  refine ⟨calls_eq_nil, fun authn identity pairs => (follows pairs).beginning, ?_, ?_, ?_⟩
  · by_cases paired : ∃ authn identity, r.Pairs authn identity
    · obtain ⟨authn, identity, pairs⟩ := paired
      exact (follows pairs).granted
    · rw [calls_eq_nil paired]
      exact List.forall_mem_nil _
  · rintro ⟨i, success⟩
    obtain ⟨authn, identity, pairs⟩ := pairs_of_answer success
    obtain ⟨complete, granted⟩ := (follows pairs).complete i success
    exact ⟨authn, identity, pairs, complete, complete ▸ granted⟩
  · rintro ⟨authn, identity, -, complete, granted⟩
    rw [calls_eq] at complete granted
    exact Engine.exists_identify_of_granted complete granted

/-- With the check and the extraction of the schema, a dataset is asked for once by a request that is
answered with an identity, and never by another one. -/
theorem countP_isExtraction_calls {r : Request} (check : r.engine.attributes = Schema.check)
    (extract : r.engine.extract = Schema.extract) :
    r.calls.countP Call.isExtraction = if r.answer.isOk then 1 else 0 := by
  cases answer : r.answer with
  | ok i =>
    obtain ⟨authn, identity, pairs⟩ := pairs_of_answer answer
    obtain ⟨complete, -⟩ := (follows pairs).complete i answer
    rw [complete]
    rfl
  | error failure =>
    apply List.countP_eq_zero.2
    intro c made extraction
    cases c with
    | extract x =>
      rw [calls_eq] at made
      obtain ⟨i, success⟩ := Engine.exists_identify_of_extract_mem check extract made
      cases answer.symm.trans success
    | _ => cases extraction

end Request

/-- Handles requests one after the other, with one log for the calls of all. -/
def serve (requests : List Request) :
    StateM (List Call) (List (Except ValidationFailure VerifiedIdentity)) :=
  requests.mapM fun r => ExceptT.run r.run

theorem serve_eq (requests : List Request) (log : List Call) :
    serve requests log = (requests.map Request.answer, log ++ requests.flatMap Request.calls) := by
  induction requests generalizing log with
  | nil =>
    rw [List.flatMap_nil, List.append_nil]
    rfl
  | cons r rest ih =>
    have later := ih (log ++ r.calls)
    unfold serve at later ⊢
    rw [List.mapM_cons, List.map_cons, List.flatMap_cons, ← List.append_assoc]
    simp only [Bind.bind, StateT.bind, r.does_run log, later]
    rfl

theorem countP_isExtraction_flatMap_calls {requests : List Request}
    (schema : ∀ r ∈ requests, r.engine.attributes = Schema.check ∧ r.engine.extract = Schema.extract) :
    (requests.flatMap Request.calls).countP Call.isExtraction =
      (requests.map Request.answer).countP Except.isOk := by
  induction requests with
  | nil => rfl
  | cons r rest ih =>
    obtain ⟨⟨check, extract⟩, others⟩ := List.forall_mem_cons.1 schema
    rw [List.flatMap_cons, List.countP_append, Request.countP_isExtraction_calls check extract, ih others,
      List.map_cons, List.countP_cons, Nat.add_comm]

/-- **Nothing is asked for early, and nothing is extracted in vain.** In a run of requests each adds its
own calls to the log, in order and none after a refusal. When all follow the schema, datasets were
asked for as many times as an identity was answered. -/
theorem calls_of_serve (requests : List Request) :
    serve requests [] = (requests.map Request.answer, requests.flatMap Request.calls) ∧
      (∀ r ∈ requests, r.Orderly) ∧
      ((∀ r ∈ requests, r.engine.attributes = Schema.check ∧ r.engine.extract = Schema.extract) →
        (serve requests []).2.countP Call.isExtraction = (serve requests []).1.countP Except.isOk) := by
  have run := serve_eq requests []
  refine ⟨run, fun r _ => r.orderly, ?_⟩
  intro schema
  rw [run]
  exact countP_isExtraction_flatMap_calls schema

/-- A request that is answered with an identity, and one whose bundle is empty. -/
def Sample.requests : List Request :=
  [⟨engine, [person, signIn], "request-1", .level1⟩, ⟨engine, [], "request-1", .level1⟩]

theorem calls_of_serve_sample :
    (∀ r ∈ Sample.requests, r.engine.attributes = Schema.check ∧ r.engine.extract = Schema.extract) ∧
      (serve Sample.requests []).2.countP Call.isExtraction = 1 := by
  have schema : ∀ r ∈ Sample.requests,
      r.engine.attributes = Schema.check ∧ r.engine.extract = Schema.extract := by
    intro r member
    rcases List.mem_pair.1 member with rfl | rfl
    · exact ⟨rfl, rfl⟩
    · exact ⟨rfl, rfl⟩
  obtain ⟨run, -, count⟩ := calls_of_serve Sample.requests
  have answers : Sample.requests.map Request.answer =
      [.ok Sample.identity, .error (.exactlyOneAuthnAssertionExpected 0)] :=
    congrArg (· :: _) Sample.identify
  refine ⟨schema, ?_⟩
  rw [count schema, run, answers]
  rfl

end RelyingParty
