import RelyingParty.Engine.Outcome

/-!
# Services

A service is an engine whose signature verifier takes a snapshot from its trust source for every signature.
Changes of a registry count from the next signature on; requests leave nothing behind.
-/

namespace RelyingParty
set_option autoImplicit false
open Trust

/-- A trust source and the collaborators that do not depend on it. -/
structure Service where
  trust : TrustSource
  subject : SubjectCheck
  attributes : AttributeCheck
  extract : Extraction

/-- A change of the registry, or a bundle to identify. -/
inductive Step where
  | change (c : Change)
  | identify (bundle : List Assertion) (expected : String) (minimum : AssuranceLevel)

namespace Service

/-- The service over a trust source with the default collaborators and a clock. -/
def standard (trust : TrustSource) (clock : Confirmation.Clock) : Service :=
  ⟨trust, Confirmation.check clock, Schema.check, Schema.extract⟩

/-- The engine that the service works with. -/
def engine (scheme : Signing.Scheme) (s : Service) : Engine :=
  ⟨.ofSource scheme s.trust, s.subject, s.attributes, s.extract⟩

/-- The service after a change of its trust source. -/
def change (s : Service) (c : Change) : Service :=
  { s with trust := s.trust.change c }

/-- The service after a step, and the answer to a request. -/
def step (scheme : Signing.Scheme) (s : Service) :
    Step → Service × Option (Except ValidationFailure VerifiedIdentity)
  | .change c => (s.change c, none)
  | .identify bundle expected minimum =>
    (s, some ((s.engine scheme).identify bundle expected minimum))

/-- The service after some steps, and the answers in order. -/
def run (scheme : Signing.Scheme) (s : Service) :
    List Step → Service × List (Option (Except ValidationFailure VerifiedIdentity))
  | [] => (s, [])
  | x :: rest =>
    let (s, answer) := s.step scheme x
    let (s, answers) := run scheme s rest
    (s, answer :: answers)

end Service

/-- The version that the library reports. -/
def version : String := "0.1.0"

end RelyingParty
