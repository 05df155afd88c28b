import RelyingParty.Engine.Failure
import RelyingParty.Schema.Check
import RelyingParty.Schema.Extract

/-!
# Engines

An engine validates with four collaborators: a signature verifier, a check of the subject, a check of
the attributes, and the extraction of the dataset. The verifier has to be given; the others have
defaults. A run of the engine logs the calls it makes to them.
-/

namespace RelyingParty
set_option autoImplicit false
open Calendar Trust

/-- A verifier of assertion signatures. -/
structure SignatureVerifier where
  verify : Assertion → SignerRole → Except SignatureError Unit
  description : String

namespace SignatureVerifier

/-- The description of a verifier that gives none. -/
def plainDescription : String := "signature verifier"

/-- A verifier against the keys of a trust source. -/
def ofSource (scheme : Signing.Scheme) (t : TrustSource) : SignatureVerifier :=
  ⟨t.verify scheme, "trust-store Ed25519 verifier"⟩

/-- A verifier against material that never changes. -/
def ofMaterial (scheme : Signing.Scheme) (m : Material) : SignatureVerifier :=
  ofSource scheme (.fixed m)

/-- A stand-in that accepts every assertion. -/
def accepting : SignatureVerifier :=
  ⟨fun _ _ => .ok (), "mock signature verifier"⟩

/-- A stand-in that rejects every assertion. -/
def rejecting (reason : String) : SignatureVerifier :=
  ⟨fun _ _ => .error (.rejected reason), "mock signature verifier"⟩

end SignatureVerifier

/-- A check of the subject of an assertion against the expected request. -/
abbrev SubjectCheck := Option Subject → String → Except SubjectError Unit

/-- A check of the attributes of an assertion. -/
abbrev AttributeCheck := Assertion → Except Schema.AttributeError Unit

/-- An extraction of the dataset of an assertion. -/
abbrev Extraction := Assertion → Except Schema.AttributeError IdentityDataset

/-- The collaborators of an engine. -/
structure Engine where
  signature : SignatureVerifier
  subject : SubjectCheck
  attributes : AttributeCheck
  extract : Extraction

/-- The engine that trusts some material, reads a clock and follows the schema. -/
def Engine.standard (scheme : Signing.Scheme) (m : Material) (clock : Confirmation.Clock) : Engine where
  signature := .ofMaterial scheme m
  subject := Confirmation.check clock
  attributes := Schema.check
  extract := Schema.extract

/-- Why an engine cannot be wired. -/
inductive WiringError where
  | missingCapability (name : String)
deriving DecidableEq

/-- The wording of a wiring error. -/
def WiringError.message : WiringError → String
  | .missingCapability name => "Missing capability: " ++ name

/-- The collaborators chosen for an engine. -/
structure Wiring where
  signature : Option SignatureVerifier
  subject : Option SubjectCheck
  attributes : Option AttributeCheck
  extract : Option Extraction

/-- No collaborator chosen. -/
def Wiring.none : Wiring := ⟨.none, .none, .none, .none⟩

/-- The engine of a wiring, where `now` is the reading of the clock that the default check of subjects
goes by. -/
def Wiring.engine (w : Wiring) (now : Instant) : Except WiringError Engine :=
  match w.signature with
  | .none => .error (.missingCapability "signature verifier")
  | some signature =>
    .ok {
      signature
      subject := w.subject.getD (Confirmation.check ⟨now, .seconds 0⟩)
      attributes := w.attributes.getD Schema.check
      extract := w.extract.getD Schema.extract }

/-- A call of an engine to a collaborator. -/
inductive Call where
  | signature (a : Assertion) (role : SignerRole)
  | subject (s : Option Subject) (expected : String)
  | attributes (a : Assertion)
  | extract (a : Assertion)
deriving DecidableEq

/-- A computation that may fail, and logs calls. -/
abbrev Run (α : Type) := ExceptT ValidationFailure (StateM (List Call)) α

namespace Run

/-- Logs a call and goes on with its answer. -/
def call {α ε : Type} (c : Call) (answer : Except ε α) (failure : ε → ValidationFailure) :
    Run α := do
  modify fun calls : List Call => calls ++ [c]
  match answer with
  | .ok a => return a
  | .error e => throw (failure e)

/-- Goes on with a result that takes no call. -/
def check {α : Type} : Except ValidationFailure α → Run α
  | .ok a => pure a
  | .error e => throw e

/-- The result of a run. -/
def result {α : Type} (run : Run α) : Except ValidationFailure α :=
  (ExceptT.run run []).1

/-- The calls that a run made, in order. -/
def calls {α : Type} (run : Run α) : List Call :=
  (ExceptT.run run []).2

end Run
end RelyingParty
