import RelyingParty.Proofs.Assertion.ReadBack

/-!
# Assertions read back

The bytes of a signature are numbers in a document, and an assertion leaves out its absent parts. Both
are read back as they were, and an assertion also from the text of its document.
-/

namespace RelyingParty
set_option autoImplicit false
open Calendar

namespace Json

theorem byte?_int (b : UInt8) : byte? (.int b.toNat) = some b := by
  have small : b.toNat < Nat.pow 2 8 := b.toNat_lt
  have read : natural? (Nat.pow 2 8) (.int b.toNat) = some b.toNat := if_pos small
  rw [byte?, read, Option.map_some, UInt8.ofNat_toNat]

theorem regular_byte (b : UInt8) : Regular (.int b.toNat) := by
  have small : b.toNat < 2 ^ 8 := b.toNat_lt
  rw [Regular]
  omega

end Json

namespace AssertionSignature

theorem ofJson?_toJson (s : AssertionSignature) : ofJson? s.toJson = some s := by
  have order : Json.InOrder _ ["key_id", "value"] :=
    (Json.inOrder_single "key_id" (.string s.keyId)).append
      (Json.inOrder_single "value" (.array (s.value.map fun b => .int b.toNat)))
  obtain ⟨r, record, fields⟩ := Json.Record.ofJson?_object order (by decide)
  have keyId : r.required "key_id" Json.string? = some s.keyId :=
    fields.required (by simp) (Json.string?_string _)
  have value : r.required "value" (Json.list? Json.byte?) = some s.value :=
    fields.required (by simp) (Json.list?_map Json.byte?_int s.value)
  rw [List.singleton_append] at record
  simp only [ofJson?, toJson, record, Option.bind_eq_bind, Option.bind_some, keyId, value]
  rfl

theorem toJson_ne_null (s : AssertionSignature) : s.toJson ≠ .null := nofun

theorem regular_toJson (s : AssertionSignature) : s.toJson.Regular := by
  simp only [toJson, Json.regular_object, List.forall_mem_cons, Json.regular_array, List.forall_mem_map]
  exact ⟨Json.regular_string _, fun b _ => Json.regular_byte b, List.forall_mem_nil _⟩

end AssertionSignature

namespace Assertion

/-- An assertion is read back from its document, where an attribute value may nest six levels deeper. -/
theorem ofJson?_toJson {room : Nat} (deep : 7 ≤ room) {a : Assertion} (legible : a.Legible) :
    ofJson? room a.toJson = some a := by
  have order : Json.InOrder _ fieldNames :=
    (((((((Json.inOrder_member? "id" .string a.id).append
      (Json.inOrder_member? "issuer" .string a.issuer)).append
      (Json.inOrder_member? "issue_instant" Instant.toJson a.issueInstant)).append
      (Json.inOrder_member? "version" SamlVersion.toJson a.version)).append
      (Json.inOrder_member? "subject" Subject.toJson a.subject)).append
      (Json.inOrder_single "authn_statements"
        (.array (a.authnStatements.map AuthnStatement.toJson)))).append
      (Json.inOrder_member? "attribute_statement" AttributeStatement.toJson a.attributeStatement)).append
      (Json.inOrder_member? "signature" AssertionSignature.toJson a.signature)
  obtain ⟨r, record, fields⟩ := Json.Record.ofJson?_object order (by decide)
  have id : r.optional "id" Json.string? = some a.id :=
    fields.optional (by simp) Json.string?_string Json.string_ne_null
  have issuer : r.optional "issuer" Json.string? = some a.issuer :=
    fields.optional (by simp) Json.string?_string Json.string_ne_null
  have issueInstant : r.optional "issue_instant" Instant.ofJson? = some a.issueInstant :=
    fields.optional_of_mem (by simp)
      (fun t given => Instant.ofJson?_toJson (legible.issueInstant t given)) Instant.toJson_ne_null
  have version : r.optional "version" SamlVersion.ofJson? = some a.version :=
    fields.optional (by simp) SamlVersion.ofJson?_toJson SamlVersion.toJson_ne_null
  have subject : r.optional "subject" Subject.ofJson? = some a.subject :=
    fields.optional_of_mem (by simp) (fun s given => Subject.ofJson?_toJson (legible.subject s given))
      Subject.toJson_ne_null
  have statements : r.withDefault "authn_statements" (Json.list? AuthnStatement.ofJson?) [] =
      some a.authnStatements :=
    fields.withDefault (by simp)
      (Json.list?_map_of_mem fun s given => AuthnStatement.ofJson?_toJson (legible.authnStatements s given))
  have statement : r.optional "attribute_statement" (AttributeStatement.ofJson? (room - 1)) =
      some a.attributeStatement := by
    have inner : 6 ≤ room - 1 := by omega
    exact fields.optional_of_mem (by simp)
      (fun s given => AttributeStatement.ofJson?_toJson inner (legible.attributeStatement s given))
      AttributeStatement.toJson_ne_null
  have signature : r.optional "signature" AssertionSignature.ofJson? = some a.signature :=
    fields.optional (by simp) AssertionSignature.ofJson?_toJson
      AssertionSignature.toJson_ne_null
  simp only [ofJson?, toJson, record, Option.bind_eq_bind, Option.bind_some, id, issuer,
    issueInstant, version, subject, statements, statement, signature]
  rfl

theorem regular_toJson (a : Assertion) : a.toJson.Regular := by
  have id := Json.regular_member? "id" a.id Json.regular_string
  have issuer := Json.regular_member? "issuer" a.issuer Json.regular_string
  have issueInstant := Json.regular_member? "issue_instant" a.issueInstant Instant.regular_toJson
  have version := Json.regular_member? "version" a.version fun v => Json.regular_string v.name
  have subject := Json.regular_member? "subject" a.subject Subject.regular_toJson
  have statement := Json.regular_member? "attribute_statement" a.attributeStatement
    AttributeStatement.regular_toJson
  have signature := Json.regular_member? "signature" a.signature AssertionSignature.regular_toJson
  rw [toJson, Json.regular_object]
  simp only [List.forall_mem_append, List.forall_mem_singleton, Json.regular_array,
    List.forall_mem_map]
  exact ⟨⟨⟨⟨⟨⟨⟨id, issuer⟩, issueInstant⟩, version⟩, subject⟩, fun s _ => s.regular_toJson⟩, statement⟩,
    signature⟩

/-- An assertion is read back from its text. -/
theorem ofText?_text {a : Assertion} (legible : a.Legible) : ofText? a.text = some a := by
  have document : Json.ofText? a.text = some a.toJson := Json.ofText?_text a.toJson a.regular_toJson
  have enough : 7 ≤ Json.maxNesting := by decide
  rw [ofText?, Json.decodeText?, document, Option.bind_some, ofJson?_toJson enough legible]

end Assertion
end RelyingParty
