import RelyingParty.Assertion.Json

/-!
# What a signature covers

A signature covers the text of a document with every part of the assertion but the signature. The document
of an attribute value is that of its content with its kind put in front, which only an object can take: the
writer gives up where the content is anything else.
-/

namespace RelyingParty
set_option autoImplicit false
open Calendar

/-- The name of a kind in messages about values that cannot be written. -/
def ValueKind.title : ValueKind → String
  | personName => "PersonName"
  | date => "Date"
  | gender => "Gender"
  | address => "Address"
  | ipAddress => "IpAddress"

/-- A value of a kind whose content is no object. -/
structure WritingFault where
  kind : ValueKind
  /-- What the content is. -/
  found : String
deriving DecidableEq

/-- The wording of a fault. -/
def WritingFault.message (e : WritingFault) : String :=
  "cannot serialize tagged newtype variant AttributeValue::" ++ e.kind.title ++ " containing " ++ e.found

/-- Content with its kind put in front of its members. -/
def ValueKind.tag (kind : ValueKind) : Json → Except WritingFault Json
  | .object members => .ok (.object (("type", .string kind.name) :: members))
  | .null => .error ⟨kind, "an optional"⟩
  | .bool _ => .error ⟨kind, "a boolean"⟩
  | .int _ => .error ⟨kind, "an integer"⟩
  | .decimal _ _ => .error ⟨kind, "a float"⟩
  | .string _ | .garbled => .error ⟨kind, "a string"⟩
  | .array _ => .error ⟨kind, "a sequence"⟩

namespace AttributeValue

/-- The document of a value without its kind. -/
def content : AttributeValue → Json
  | personName v | date v | gender v => v.toJson
  | address a => a.toJson
  | ipAddress value => .object [("value", .string value)]

/-- Writes a value. -/
def write (v : AttributeValue) : Except WritingFault Json := v.kind.tag v.content

end AttributeValue

/-- Writes an attribute. -/
def Attribute.write (a : Attribute) : Except WritingFault Json := do
  let values ← a.values.mapM AttributeValue.write
  return .object [("name", .string a.name), ("values", .array values)]

/-- Writes a statement of attributes. -/
def AttributeStatement.write (s : AttributeStatement) : Except WritingFault Json := do
  let attributes ← s.attributes.mapM Attribute.write
  return .object [("attributes", .array attributes)]

/-- Writes a statement of attributes, or `null` where there is none. -/
def AttributeStatement.writeOrNull : Option AttributeStatement → Except WritingFault Json
  | none => .ok .null
  | some s => s.write

namespace Assertion

/-- Every part but the signature, absent parts as `null`, when the document of the attribute statement is
given. -/
def signedAround (a : Assertion) (statement : Json) : Json :=
  .object [
    ("id", Json.orNull .string a.id),
    ("issuer", Json.orNull .string a.issuer),
    ("issue_instant", Json.orNull Instant.toJson a.issueInstant),
    ("version", Json.orNull SamlVersion.toJson a.version),
    ("subject", Json.orNull Subject.toJson a.subject),
    ("authn_statements", .array (a.authnStatements.map AuthnStatement.toJson)),
    ("attribute_statement", statement)]

/-- The document that a signature covers. -/
def signedJson (a : Assertion) : Json :=
  a.signedAround (Json.orNull AttributeStatement.toJson a.attributeStatement)

/-- The text that a signature covers. -/
def signedText (a : Assertion) : String := a.signedJson.text

/-- The bytes that a signature covers. -/
def signedBytes (a : Assertion) : List UInt8 := a.signedText.toUTF8.toList

/-- Writes the bytes that a signature covers. -/
def signingInput (a : Assertion) : Except WritingFault (List UInt8) := do
  let statement ← AttributeStatement.writeOrNull a.attributeStatement
  return (a.signedAround statement).text.toUTF8.toList

end Assertion

/-! ## Writing never fails -/

theorem AttributeValue.write_eq (v : AttributeValue) : v.write = .ok v.toJson := by
  cases v <;> rfl

theorem Attribute.write_eq (a : Attribute) : a.write = .ok a.toJson := by
  have values : a.values.mapM AttributeValue.write = .ok (a.values.map AttributeValue.toJson) := by
    rw [funext AttributeValue.write_eq]
    exact List.mapM_pure
  rw [write, values]
  rfl

theorem AttributeStatement.write_eq (s : AttributeStatement) : s.write = .ok s.toJson := by
  have attributes : s.attributes.mapM Attribute.write = .ok (s.attributes.map Attribute.toJson) := by
    rw [funext Attribute.write_eq]
    exact List.mapM_pure
  rw [write, attributes]
  rfl

theorem AttributeStatement.writeOrNull_eq (o : Option AttributeStatement) :
    writeOrNull o = .ok (Json.orNull toJson o) := by
  cases o with
  | none => rfl
  | some s => exact s.write_eq

/-- What a signature covers can always be written. -/
theorem Assertion.signingInput_eq (a : Assertion) : a.signingInput = .ok a.signedBytes := by
  rw [signingInput, AttributeStatement.writeOrNull_eq]
  rfl

end RelyingParty
