import RelyingParty.Calendar.Instant

/-!
# Assertions

An assertion is a signed statement of an identity provider about a subject. Parts that the wire format
requires are optional here, so that their absence is found by validation and reported. Assertions with
an authentication statement prove a sign-in; the others carry the identity attributes.
-/

namespace RelyingParty
set_option autoImplicit false
open Calendar

/-- The protocol version of an assertion. -/
inductive SamlVersion where
  | v1_0
  | v1_1
  | v2_0
deriving DecidableEq

/-- What a confirmation says about the delivery of its assertion. -/
structure ConfirmationData where
  /-- The request that the assertion answers. -/
  inResponseTo : Option String
  notBefore : Option Instant
  notOnOrAfter : Option Instant
  recipient : Option String
deriving DecidableEq

/-- How the presenter of an assertion is tied to its subject. -/
structure Confirmation where
  method : String
  data : Option ConfirmationData
deriving DecidableEq

/-- Whom an assertion is about. -/
structure Subject where
  /-- The persistent identifier of the subject. -/
  nameId : Option String
  confirmations : List Confirmation
deriving DecidableEq

/-- A statement that the subject signed in. -/
structure AuthnStatement where
  authnInstant : Option Instant
  /-- The authentication context, which claims a level of assurance. -/
  contextClassRef : Option String
deriving DecidableEq

/-- A text with its verified flag and the ends of its validity. -/
structure VerifiableText where
  value : String
  verified : Bool
  from? : Option Instant
  to? : Option Instant
deriving DecidableEq

/-- An address with its verified flag and the ends of its validity. -/
structure AddressValue where
  lines : List String
  postCode : Option String
  internationalPostCode : Option String
  uprn : Option String
  verified : Bool
  from? : Option Instant
  to? : Option Instant
deriving DecidableEq

/-- The kinds of attribute values. -/
inductive ValueKind where
  | personName
  | date
  | gender
  | address
  | ipAddress
deriving DecidableEq

/-- All kinds of attribute values. -/
def ValueKind.all : List ValueKind := [personName, date, gender, address, ipAddress]

/-- The name of a kind. -/
def ValueKind.name : ValueKind → String
  | personName => "person_name"
  | date => "date"
  | gender => "gender"
  | address => "address"
  | ipAddress => "ip_address"

/-- A value of an attribute. -/
inductive AttributeValue where
  | personName (value : VerifiableText)
  | date (value : VerifiableText)
  | gender (value : VerifiableText)
  | address (value : AddressValue)
  | ipAddress (value : String)
deriving DecidableEq

/-- The kind of a value. -/
def AttributeValue.kind : AttributeValue → ValueKind
  | personName _ => .personName
  | date _ => .date
  | gender _ => .gender
  | address _ => .address
  | ipAddress _ => .ipAddress

/-- A named attribute with its values in order. -/
structure Attribute where
  name : String
  values : List AttributeValue
deriving DecidableEq

/-- A statement of attributes. -/
structure AttributeStatement where
  attributes : List Attribute
deriving DecidableEq

/-- A signature over the rest of an assertion. -/
structure AssertionSignature where
  keyId : String
  value : List UInt8
deriving DecidableEq

/-- An assertion. -/
structure Assertion where
  id : Option String
  issuer : Option String
  issueInstant : Option Instant
  version : Option SamlVersion
  subject : Option Subject
  authnStatements : List AuthnStatement
  attributeStatement : Option AttributeStatement
  signature : Option AssertionSignature
deriving DecidableEq

/-- The part an assertion plays in a response. -/
inductive AssertionRole where
  | authn
  | identity
deriving DecidableEq

namespace SamlVersion

/-- All versions. -/
def all : List SamlVersion := [v1_0, v1_1, v2_0]

/-- The text of a version. -/
def name : SamlVersion → String
  | v1_0 => "1.0"
  | v1_1 => "1.1"
  | v2_0 => "2.0"

end SamlVersion

namespace AssertionRole

/-- Both roles. -/
def all : List AssertionRole := [authn, identity]

/-- The name of a role in documents. -/
def name : AssertionRole → String
  | authn => "AUTHN_ASSERTION"
  | identity => "IDENTITY_ASSERTION"

/-- The name of a role in messages. -/
def word : AssertionRole → String
  | authn => "authn"
  | identity => "identity"

end AssertionRole

/-- The confirmation method of an assertion that its bearer presents. -/
def bearerMethod : String := "urn:oasis:names:tc:SAML:2.0:cm:bearer"

namespace Assertion

/-- An assertion without any content. -/
def empty : Assertion := ⟨none, none, none, none, none, [], none, none⟩

/-- The identifier, or an empty text. -/
def idText (a : Assertion) : String := a.id.getD ""

/-- The identifier of the subject. -/
def nameId (a : Assertion) : Option String := a.subject.bind (·.nameId)

/-- The attributes, none when there is no statement of them. -/
def attributes (a : Assertion) : List Attribute :=
  (a.attributeStatement.map (·.attributes)).getD []

/-- The role of an assertion, decided by whether it has authentication statements. -/
def role (a : Assertion) : AssertionRole :=
  if a.authnStatements.isEmpty then .identity else .authn

end Assertion

/-- The assertions of a bundle with a role, in order. -/
def withRole (role : AssertionRole) (bundle : List Assertion) : List Assertion :=
  bundle.filter fun a => a.role == role

end RelyingParty
