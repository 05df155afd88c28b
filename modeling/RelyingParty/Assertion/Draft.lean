import RelyingParty.Assertion.Basic

/-!
# Drafting assertions

An assertion is drafted from one issued now, with the current protocol version and nothing else, by
setting and adding parts.
-/

namespace RelyingParty
set_option autoImplicit false
open Calendar

/-- A subject with an identifier and no confirmations. -/
def Subject.named (nameId : String) : Subject := ⟨some nameId, []⟩

/-- The subject with one more confirmation. -/
def Subject.withConfirmation (s : Subject) (c : Confirmation) : Subject :=
  { s with confirmations := s.confirmations ++ [c] }

/-- Data that answers a request until an instant. -/
def ConfirmationData.forRequest (request : String) (notOnOrAfter : Instant) : ConfirmationData :=
  ⟨some request, none, some notOnOrAfter, none⟩

/-- A bearer confirmation. -/
def Confirmation.bearer (data : ConfirmationData) : Confirmation := ⟨bearerMethod, some data⟩

/-- A statement of a sign-in now, in an authentication context. -/
def AuthnStatement.withContext (now : Instant) (context : String) : AuthnStatement :=
  ⟨some now, some context⟩

namespace Assertion

/-- An assertion issued now. -/
def issued (now : Instant) : Assertion :=
  { empty with issueInstant := some now, version := some .v2_0 }

/-- The assertion with an identifier. -/
def withId (a : Assertion) (id : String) : Assertion := { a with id := some id }

/-- The assertion with an issuer. -/
def withIssuer (a : Assertion) (issuer : String) : Assertion := { a with issuer := some issuer }

/-- The assertion issued at an instant. -/
def withIssueInstant (a : Assertion) (t : Instant) : Assertion := { a with issueInstant := some t }

/-- The assertion with a protocol version. -/
def withVersion (a : Assertion) (v : SamlVersion) : Assertion := { a with version := some v }

/-- The assertion about a subject. -/
def withSubject (a : Assertion) (s : Subject) : Assertion := { a with subject := some s }

/-- The assertion with one more authentication statement. -/
def addAuthnStatement (a : Assertion) (s : AuthnStatement) : Assertion :=
  { a with authnStatements := a.authnStatements ++ [s] }

/-- The assertion with one more attribute, and a statement to hold it. -/
def addAttribute (a : Assertion) (b : Attribute) : Assertion :=
  { a with attributeStatement := some ⟨a.attributes ++ [b]⟩ }

/-- The assertion with a statement of attributes. -/
def withAttributeStatement (a : Assertion) (s : AttributeStatement) : Assertion :=
  { a with attributeStatement := some s }

end Assertion
end RelyingParty
