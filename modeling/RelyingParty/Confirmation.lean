import RelyingParty.Assertion.Basic
import RelyingParty.Calendar.InstantText
import RelyingParty.Text.Blank

/-!
# Bearer confirmation

Whether a subject is confirmed for the presenter of the assertion, now, in answer to a request. The
clocks of the two sides may disagree by a skew, which widens the window at both ends.
-/

namespace RelyingParty
set_option autoImplicit false
open Calendar

/-- Why a subject is not confirmed, in the order of the checks. -/
inductive SubjectError where
  | missingSubject
  | exactlyOneConfirmationExpected (found : Nat)
  | invalidConfirmationMethod (method : String)
  | missingConfirmationData
  | clockSkewOutOfRange
  | notYetValid (notBefore : Instant)
  | missingNotOnOrAfter
  | expired (notOnOrAfter : Instant)
  | missingInResponseTo
  | inResponseToMismatch (expected actual : String)
  | missingNameId
deriving DecidableEq

/-- The wording of a subject error. -/
def SubjectError.message : SubjectError → String
  | .missingSubject => "Subject is missing from the assertion"
  | .exactlyOneConfirmationExpected found =>
    "Exactly one subject confirmation is expected, found " ++ Text.decimal found
  | .invalidConfirmationMethod method =>
    "Subject confirmation method must be bearer, got '" ++ method ++ "'"
  | .missingConfirmationData => "Subject confirmation data is missing from the assertion"
  | .clockSkewOutOfRange => "Clock skew allowance is out of range"
  | .notYetValid notBefore =>
    "Subject confirmation data is not valid until " ++ notBefore.messageText
  | .missingNotOnOrAfter => "Subject confirmation data must contain NotOnOrAfter"
  | .expired notOnOrAfter => "Subject confirmation data expired at " ++ notOnOrAfter.messageText
  | .missingInResponseTo => "Subject confirmation data must contain InResponseTo"
  | .inResponseToMismatch expected actual =>
    "InResponseTo must match the request id: expected '" ++ expected ++ "', got '" ++ actual ++ "'"
  | .missingNameId => "NameID is missing from the subject of the assertion"

namespace Confirmation

/-- A clock reading and the disagreement of clocks that is allowed for. -/
structure Clock where
  now : Instant
  skew : Span

/-- The latest and earliest readings that the clock may stand for. -/
def Clock.bounds (c : Clock) : Except SubjectError (Instant × Instant) :=
  match c.now.shift? c.skew, c.now.shift? c.skew.neg with
  | some latest, some earliest => .ok (latest, earliest)
  | _, _ => .error .clockSkewOutOfRange

/-- The single confirmation of a subject. -/
def single (s : Subject) : Except SubjectError Confirmation :=
  match s.confirmations with
  | [c] => .ok c
  | cs => .error (.exactlyOneConfirmationExpected cs.length)

/-- The data of a bearer confirmation. -/
def bearerData (c : Confirmation) : Except SubjectError ConfirmationData :=
  if c.method ≠ bearerMethod then .error (.invalidConfirmationMethod c.method)
  else
    match c.data with
    | none => .error .missingConfirmationData
    | some data => .ok data

/-- Checks that the window has opened at the latest reading and not closed at the earliest. -/
def checkWindow (data : ConfirmationData) (latest earliest : Instant) : Except SubjectError Unit := do
  match data.notBefore with
  | some notBefore => if latest < notBefore then throw (.notYetValid notBefore)
  | none => pure ()
  match data.notOnOrAfter with
  | none => throw .missingNotOnOrAfter
  | some notOnOrAfter => if notOnOrAfter ≤ earliest then throw (.expired notOnOrAfter)

/-- Checks that the confirmation answers the expected request. -/
def checkRequest (data : ConfirmationData) (expected : String) : Except SubjectError Unit :=
  match data.inResponseTo with
  | none => .error .missingInResponseTo
  | some actual =>
    if actual = expected then .ok () else .error (.inResponseToMismatch expected actual)

/-- Checks that a subject is confirmed for the bearer of an answer to the expected request. -/
def check (clock : Clock) (subject : Option Subject) (expected : String) :
    Except SubjectError Unit := do
  let some s := subject | throw .missingSubject
  let c ← single s
  let data ← bearerData c
  let (latest, earliest) ← clock.bounds
  checkWindow data latest earliest
  checkRequest data expected
  if Text.isMissing s.nameId then throw .missingNameId

end Confirmation
end RelyingParty
