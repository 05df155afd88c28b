import RelyingParty.Assertion.Basic
import RelyingParty.Calendar.InstantText
import RelyingParty.Json.Printer
import RelyingParty.Json.Record

/-!
# Assertions as documents

How the parts of an assertion are written to documents and read from them. The members of an attribute
value are set aside until its `type` is known, so they have to fit in the room left for nesting; the
other readers pass that room on.
-/

namespace RelyingParty
set_option autoImplicit false
open Calendar

/-- An instant in a document. -/
def Calendar.Instant.toJson (t : Instant) : Json := .string t.text

/-- The instant that a document holds. -/
def Calendar.Instant.ofJson? : Json.Decoder Instant :=
  fun json => (Json.string? json).bind Instant.ofText?

/-- A date in a document. -/
def Calendar.Date.toJson (d : Date) : Json := .string d.text

/-- The date that a document holds. -/
def Calendar.Date.ofJson? : Json.Decoder Date :=
  fun json => (Json.string? json).bind Date.ofText?

namespace SamlVersion

/-- A version in a document. -/
def toJson (v : SamlVersion) : Json := .string v.name

/-- The version that a document holds. -/
def ofJson? : Json.Decoder SamlVersion := Json.constant? name all

end SamlVersion

namespace AssertionRole

/-- A role in a document. -/
def toJson (r : AssertionRole) : Json := .string r.name

/-- The role that a document holds. -/
def ofJson? : Json.Decoder AssertionRole := Json.constant? name all

end AssertionRole

namespace ConfirmationData

/-- Confirmation data in a document. -/
def toJson (d : ConfirmationData) : Json :=
  .object (Json.member? "in_response_to" .string d.inResponseTo
    ++ Json.member? "not_before" Instant.toJson d.notBefore
    ++ Json.member? "not_on_or_after" Instant.toJson d.notOnOrAfter
    ++ Json.member? "recipient" .string d.recipient)

/-- The confirmation data that a document holds. -/
def ofJson? : Json.Decoder ConfirmationData := fun json => do
  let r ← Json.Record.ofJson? ["in_response_to", "not_before", "not_on_or_after", "recipient"] json
  return {
    inResponseTo := ← r.optional "in_response_to" Json.string?
    notBefore := ← r.optional "not_before" Instant.ofJson?
    notOnOrAfter := ← r.optional "not_on_or_after" Instant.ofJson?
    recipient := ← r.optional "recipient" Json.string? }

end ConfirmationData

namespace Confirmation

/-- A confirmation in a document. -/
def toJson (c : Confirmation) : Json :=
  .object (("method", .string c.method) :: Json.member? "data" ConfirmationData.toJson c.data)

/-- The confirmation that a document holds. -/
def ofJson? : Json.Decoder Confirmation := fun json => do
  let r ← Json.Record.ofJson? ["method", "data"] json
  return {
    method := ← r.required "method" Json.string?
    data := ← r.optional "data" ConfirmationData.ofJson? }

end Confirmation

namespace Subject

/-- A subject in a document. -/
def toJson (s : Subject) : Json :=
  .object (Json.member? "name_id" .string s.nameId
    ++ [("confirmations", .array (s.confirmations.map Confirmation.toJson))])

/-- The subject that a document holds. -/
def ofJson? : Json.Decoder Subject := fun json => do
  let r ← Json.Record.ofJson? ["name_id", "confirmations"] json
  return {
    nameId := ← r.optional "name_id" Json.string?
    confirmations := ← r.withDefault "confirmations" (Json.list? Confirmation.ofJson?) [] }

end Subject

namespace AuthnStatement

/-- An authentication statement in a document. -/
def toJson (s : AuthnStatement) : Json :=
  .object (Json.member? "authn_instant" Instant.toJson s.authnInstant
    ++ Json.member? "context_class_ref" .string s.contextClassRef)

/-- The authentication statement that a document holds. -/
def ofJson? : Json.Decoder AuthnStatement := fun json => do
  let r ← Json.Record.ofJson? ["authn_instant", "context_class_ref"] json
  return {
    authnInstant := ← r.optional "authn_instant" Instant.ofJson?
    contextClassRef := ← r.optional "context_class_ref" Json.string? }

end AuthnStatement

namespace VerifiableText

/-- The members of a verifiable text. -/
def members (v : VerifiableText) : List (String × Json) :=
  [("value", .string v.value), ("verified", .bool v.verified)]
    ++ Json.member? "from" Instant.toJson v.from?
    ++ Json.member? "to" Instant.toJson v.to?

/-- A verifiable text in a document. -/
def toJson (v : VerifiableText) : Json := .object v.members

/-- The verifiable text that a document holds. -/
def ofJson? : Json.Decoder VerifiableText := fun json => do
  let r ← Json.Record.ofJson? ["value", "verified", "from", "to"] json
  return {
    value := ← r.required "value" Json.string?
    verified := ← r.withDefault "verified" Json.bool? false
    from? := ← r.optional "from" Instant.ofJson?
    to? := ← r.optional "to" Instant.ofJson? }

end VerifiableText

namespace AddressValue

/-- The members of an address. -/
def members (a : AddressValue) : List (String × Json) :=
  [("lines", Json.strings a.lines)]
    ++ Json.member? "post_code" .string a.postCode
    ++ Json.member? "international_post_code" .string a.internationalPostCode
    ++ Json.member? "uprn" .string a.uprn
    ++ [("verified", .bool a.verified)]
    ++ Json.member? "from" Instant.toJson a.from?
    ++ Json.member? "to" Instant.toJson a.to?

/-- An address in a document. -/
def toJson (a : AddressValue) : Json := .object a.members

/-- The address that a document holds. -/
def ofJson? : Json.Decoder AddressValue := fun json => do
  let r ← Json.Record.ofJson?
    ["lines", "post_code", "international_post_code", "uprn", "verified", "from", "to"] json
  return {
    lines := ← r.withDefault "lines" (Json.list? Json.string?) []
    postCode := ← r.optional "post_code" Json.string?
    internationalPostCode := ← r.optional "international_post_code" Json.string?
    uprn := ← r.optional "uprn" Json.string?
    verified := ← r.withDefault "verified" Json.bool? false
    from? := ← r.optional "from" Instant.ofJson?
    to? := ← r.optional "to" Instant.ofJson? }

end AddressValue

namespace AttributeValue

/-- The members of a value, apart from its kind. -/
def members : AttributeValue → List (String × Json)
  | personName v | date v | gender v => v.members
  | address a => a.members
  | ipAddress value => [("value", .string value)]

/-- A value in a document, with its kind first. -/
def toJson (v : AttributeValue) : Json :=
  .object (("type", .string v.kind.name) :: v.members)

/-- The value of a kind whose other members are in a document. -/
def ofKind? (rest : Json) : ValueKind → Option AttributeValue
  | .personName => (VerifiableText.ofJson? rest).map personName
  | .date => (VerifiableText.ofJson? rest).map date
  | .gender => (VerifiableText.ofJson? rest).map gender
  | .address => (AddressValue.ofJson? rest).map address
  | .ipAddress => do
    let r ← Json.Record.ofJson? ["value"] rest
    return ipAddress (← r.required "value" Json.string?)

/-- The kind with a name. -/
def kindNamed? (name : String) : Option ValueKind :=
  ValueKind.all.find? fun k => k.name == name

/-- The value that a document holds: an object with the kind among its members, or an array that
starts with the kind. -/
def ofJson? (room : Nat) : Json.Decoder AttributeValue
  | .object members =>
    let rest := members.filter fun m => m.1 != "type"
    match members.filter fun m => m.1 == "type" with
    | [(_, .string kind)] =>
      if Json.membersFit (room - 1) rest then (kindNamed? kind).bind (ofKind? (.object rest)) else none
    | _ => none
  | .array (.string kind :: rest) =>
    if Json.elementsFit (room - 1) rest then (kindNamed? kind).bind (ofKind? (.array rest)) else none
  | _ => none

end AttributeValue

namespace Attribute

/-- An attribute in a document. -/
def toJson (a : Attribute) : Json :=
  .object [("name", .string a.name), ("values", .array (a.values.map AttributeValue.toJson))]

/-- The attribute that a document holds. -/
def ofJson? (room : Nat) : Json.Decoder Attribute := fun json => do
  let r ← Json.Record.ofJson? ["name", "values"] json
  return {
    name := ← r.required "name" Json.string?
    values := ← r.withDefault "values" (Json.list? (AttributeValue.ofJson? (room - 2))) [] }

end Attribute

namespace AttributeStatement

/-- A statement of attributes in a document. -/
def toJson (s : AttributeStatement) : Json :=
  .object [("attributes", .array (s.attributes.map Attribute.toJson))]

/-- The statement of attributes that a document holds. -/
def ofJson? (room : Nat) : Json.Decoder AttributeStatement := fun json => do
  let r ← Json.Record.ofJson? ["attributes"] json
  return {
    attributes := ← r.withDefault "attributes" (Json.list? (Attribute.ofJson? (room - 2))) [] }

end AttributeStatement

namespace AssertionSignature

/-- A signature in a document, its bytes as numbers. -/
def toJson (s : AssertionSignature) : Json :=
  .object [("key_id", .string s.keyId), ("value", .array (s.value.map fun b => .int b.toNat))]

/-- The signature that a document holds. -/
def ofJson? : Json.Decoder AssertionSignature := fun json => do
  let r ← Json.Record.ofJson? ["key_id", "value"] json
  return {
    keyId := ← r.required "key_id" Json.string?
    value := ← r.required "value" (Json.list? Json.byte?) }

end AssertionSignature

namespace Assertion

/-- The names of an assertion's members, in order. -/
def fieldNames : List String :=
  ["id", "issuer", "issue_instant", "version", "subject", "authn_statements", "attribute_statement",
   "signature"]

/-- An assertion in a document. -/
def toJson (a : Assertion) : Json :=
  .object (Json.member? "id" .string a.id
    ++ Json.member? "issuer" .string a.issuer
    ++ Json.member? "issue_instant" Instant.toJson a.issueInstant
    ++ Json.member? "version" SamlVersion.toJson a.version
    ++ Json.member? "subject" Subject.toJson a.subject
    ++ [("authn_statements", .array (a.authnStatements.map AuthnStatement.toJson))]
    ++ Json.member? "attribute_statement" AttributeStatement.toJson a.attributeStatement
    ++ Json.member? "signature" AssertionSignature.toJson a.signature)

/-- The assertion that a document holds. -/
def ofJson? (room : Nat) : Json.Decoder Assertion := fun json => do
  let r ← Json.Record.ofJson? fieldNames json
  return {
    id := ← r.optional "id" Json.string?
    issuer := ← r.optional "issuer" Json.string?
    issueInstant := ← r.optional "issue_instant" Instant.ofJson?
    version := ← r.optional "version" SamlVersion.ofJson?
    subject := ← r.optional "subject" Subject.ofJson?
    authnStatements := ← r.withDefault "authn_statements" (Json.list? AuthnStatement.ofJson?) []
    attributeStatement :=
      ← r.optional "attribute_statement" (AttributeStatement.ofJson? (room - 1))
    signature := ← r.optional "signature" AssertionSignature.ofJson? }

/-- The text of an assertion's document. -/
def text (a : Assertion) : String := a.toJson.text

/-- The assertion that the text of a document holds. -/
def ofText? : String → Option Assertion := Json.decodeText? (ofJson? Json.maxNesting)

end Assertion
end RelyingParty
