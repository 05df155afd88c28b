import RelyingParty.Assertion.SigningInput
import RelyingParty.Proofs.Assertion.ReadBack
import RelyingParty.Proofs.Text.Utf8

/-!
# What a signature covers

The signed bytes of an assertion with legible instants determine every part of it but the signature. They are
the text of a regular document, which is read as the assertion without its signature.
-/

namespace RelyingParty
set_option autoImplicit false
open Calendar

namespace Assertion

theorem signedBytes_eq_flatMap (a : Assertion) :
    a.signedBytes = a.signedJson.chars.flatMap String.utf8EncodeChar :=
  toList_toUTF8_ofList a.signedJson.chars

theorem regular_signedJson (a : Assertion) : a.signedJson.Regular := by
  have id := Json.regular_orNull a.id Json.regular_string
  have issuer := Json.regular_orNull a.issuer Json.regular_string
  have issueInstant := Json.regular_orNull a.issueInstant Instant.regular_toJson
  have version := Json.regular_orNull a.version fun v => Json.regular_string v.name
  have subject := Json.regular_orNull a.subject Subject.regular_toJson
  have statement := Json.regular_orNull a.attributeStatement AttributeStatement.regular_toJson
  simp only [signedJson, signedAround, Json.regular_object, List.forall_mem_cons, Json.regular_array,
    List.forall_mem_map]
  exact ⟨id, issuer, issueInstant, version, subject, fun s _ => s.regular_toJson, statement,
    List.forall_mem_nil _⟩

/-- The signed document is read as the assertion without its signature. -/
theorem ofJson?_signedJson {room : Nat} (deep : 7 ≤ room) {a : Assertion} (legible : a.Legible) :
    ofJson? room a.signedJson = some { a with signature := none } := by
  have order : Json.InOrder [
      ("id", Json.orNull .string a.id),
      ("issuer", Json.orNull .string a.issuer),
      ("issue_instant", Json.orNull Instant.toJson a.issueInstant),
      ("version", Json.orNull SamlVersion.toJson a.version),
      ("subject", Json.orNull Subject.toJson a.subject),
      ("authn_statements", .array (a.authnStatements.map AuthnStatement.toJson)),
      ("attribute_statement", Json.orNull AttributeStatement.toJson a.attributeStatement)] fieldNames :=
    List.sublist_append_left _ ["signature"]
  obtain ⟨r, record, fields⟩ := Json.Record.ofJson?_object order (by decide)
  have id : r.optional "id" Json.string? = some a.id :=
    (fields.optional_orNull (by simp) Json.string?_string Json.string_ne_null).1
  have issuer : r.optional "issuer" Json.string? = some a.issuer :=
    (fields.optional_orNull (by simp) Json.string?_string Json.string_ne_null).1
  have issueInstant : r.optional "issue_instant" Instant.ofJson? = some a.issueInstant :=
    (fields.optional_orNull_of_mem (by simp)
      (fun t given => Instant.ofJson?_toJson (legible.issueInstant t given)) Instant.toJson_ne_null).1
  have version : r.optional "version" SamlVersion.ofJson? = some a.version :=
    (fields.optional_orNull (by simp) SamlVersion.ofJson?_toJson SamlVersion.toJson_ne_null).1
  have subject : r.optional "subject" Subject.ofJson? = some a.subject :=
    (fields.optional_orNull_of_mem (by simp)
      (fun s given => Subject.ofJson?_toJson (legible.subject s given)) Subject.toJson_ne_null).1
  have statements : r.withDefault "authn_statements" (Json.list? AuthnStatement.ofJson?) [] =
      some a.authnStatements :=
    fields.withDefault (by simp)
      (Json.list?_map_of_mem fun s given => AuthnStatement.ofJson?_toJson (legible.authnStatements s given))
  have statement : r.optional "attribute_statement" (AttributeStatement.ofJson? (room - 1)) =
      some a.attributeStatement := by
    have inner : 6 ≤ room - 1 := by omega
    exact (fields.optional_orNull_of_mem (by simp)
      (fun s given => AttributeStatement.ofJson?_toJson inner (legible.attributeStatement s given))
      AttributeStatement.toJson_ne_null).1
  have signature : r.optional "signature" AssertionSignature.ofJson? = some none :=
    fields.absent (by simp)
  simp only [ofJson?, signedJson, signedAround, record, Option.bind_eq_bind, Option.bind_some, id, issuer,
    issueInstant, version, subject, statements, statement, signature]
  rfl

/-- Two assertions agree in every part that a signature covers. -/
structure SameContent (a b : Assertion) : Prop where
  id : a.id = b.id
  issuer : a.issuer = b.issuer
  issueInstant : a.issueInstant = b.issueInstant
  version : a.version = b.version
  subject : a.subject = b.subject
  authnStatements : a.authnStatements = b.authnStatements
  attributeStatement : a.attributeStatement = b.attributeStatement

theorem SameContent.signedBytes {a b : Assertion} (same : SameContent a b) :
    a.signedBytes = b.signedBytes := by
  simp only [Assertion.signedBytes, signedText, signedJson, signedAround, same.id, same.issuer,
    same.issueInstant, same.version, same.subject, same.authnStatements, same.attributeStatement]

/-- What a signature covers tells assertions with legible instants apart. -/
theorem sameContent_of_signedBytes {a b : Assertion} (legible : a.Legible) (legible' : b.Legible)
    (same : a.signedBytes = b.signedBytes) : SameContent a b := by
  have document : a.signedJson = b.signedJson :=
    Json.text_injective a.regular_signedJson b.regular_signedJson (toList_toUTF8_injective same)
  have unsigned : { a with signature := none } = { b with signature := none } := by
    rw [← Option.some.injEq, ← ofJson?_signedJson (Nat.le_refl 7) legible, document,
      ofJson?_signedJson (Nat.le_refl 7) legible']
  simp only [Assertion.mk.injEq, and_true] at unsigned
  obtain ⟨id, issuer, issueInstant, version, subject, statements, statement⟩ := unsigned
  exact ⟨id, issuer, issueInstant, version, subject, statements, statement⟩

/-- **The signed bytes determine the assertion**, up to its signature, and can always be written. -/
theorem signedBytes_eq_iff {a b : Assertion} (legible : a.Legible) (legible' : b.Legible) :
    a.signingInput = .ok a.signedBytes ∧
      (a.signingInput = b.signingInput ↔
        a.id = b.id ∧ a.issuer = b.issuer ∧ a.issueInstant = b.issueInstant ∧ a.version = b.version ∧
          a.subject = b.subject ∧ a.authnStatements = b.authnStatements ∧
          a.attributeStatement = b.attributeStatement) := by
  refine ⟨a.signingInput_eq, ?_⟩
  rw [a.signingInput_eq, b.signingInput_eq, Except.ok.injEq]
  constructor
  · intro same
    obtain ⟨id, issuer, issueInstant, version, subject, statements, statement⟩ :=
      sameContent_of_signedBytes legible legible' same
    exact ⟨id, issuer, issueInstant, version, subject, statements, statement⟩
  · rintro ⟨id, issuer, issueInstant, version, subject, statements, statement⟩
    exact SameContent.signedBytes ⟨id, issuer, issueInstant, version, subject, statements, statement⟩

/-- An assertion that was issued in the leap second at the end of 2016 and tells no more. -/
def Sample.bare : Assertion :=
  { Assertion.empty with issueInstant := Instant.ofText? "2016-12-31T23:59:60.5Z" }

/-- The same with a statement of attributes that has none. -/
def Sample.attributeless : Assertion := { bare with attributeStatement := some ⟨[]⟩ }

/-- No statement of attributes is signed otherwise than an empty one. -/
theorem signedBytes_eq_iff_attributeless :
    Sample.bare.Legible ∧ Sample.attributeless.Legible ∧
      Sample.bare.signingInput = .ok Sample.bare.signedBytes ∧
      Sample.bare.signingInput ≠ Sample.attributeless.signingInput := by
  have legible : Sample.bare.Legible := by decide
  have legible' : Sample.attributeless.Legible := by decide
  obtain ⟨written, same_iff⟩ := signedBytes_eq_iff legible legible'
  refine ⟨legible, legible', written, fun same => ?_⟩
  obtain ⟨-, -, -, -, -, -, statement⟩ := same_iff.1 same
  cases statement

end Assertion
end RelyingParty
