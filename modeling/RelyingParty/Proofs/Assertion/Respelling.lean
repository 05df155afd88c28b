import RelyingParty.Proofs.Assertion.Document
import RelyingParty.Proofs.Calendar.Offset
import RelyingParty.Proofs.Json.Respelling
import RelyingParty.Trust.Verifier

/-!
# Respelled assertions

How the document of an assertion may be respelled, part by part: which members may be `null`, which hold
their default when they are left out, and where instants are written. The reader of every part respects its
respellings, so an assertion is read from every respelling of its text, and so is what its signature covers.
-/

namespace RelyingParty
set_option autoImplicit false
open Calendar

namespace Calendar.Instant

/-- A step from one text of an instant to another. -/
inductive Step : Json → Json → Prop
  | rewritten {t : Instant} {text text' : String} (legible : t.Legible) (before : t.Writes text)
    (after : t.Writes text') : Step (.string text) (.string text')

/-- An instant may be written at any offset. -/
def respelling : Json.Respelling where
  Step := Step
  notNull := by
    rintro _ _ ⟨⟩
    exact ⟨nofun, nofun⟩
  inherits := by
    rintro opens holds hereditary room _ _ ⟨legible, before, after⟩ -
    exact hereditary.atom room (.string _)

theorem respects : Json.Respects ofJson? respelling := by
  rintro _ _ a ⟨legible, before, after⟩ got
  obtain rfl := Option.some.inj ((ofText?_of_writes legible before).symm.trans got)
  exact ofText?_of_writes legible after

end Calendar.Instant

namespace ConfirmationData

/-- The fields of confirmation data, all optional. -/
def fields : List Json.Field :=
  [⟨"in_response_to", .optional, .unchanged⟩, ⟨"not_before", .optional, Instant.respelling⟩,
   ⟨"not_on_or_after", .optional, Instant.respelling⟩, ⟨"recipient", .optional, .unchanged⟩]

theorem respects : Json.Respects ofJson? (.record fields) := by
  have inResponseTo : Json.Kept fields fun r => r.optional "in_response_to" Json.string? :=
    Json.kept_optional (by simp [fields]) (Json.respects_unchanged _)
  have notBefore : Json.Kept fields fun r => r.optional "not_before" Instant.ofJson? :=
    Json.kept_optional (by simp [fields]) Instant.respects
  have notOnOrAfter : Json.Kept fields fun r => r.optional "not_on_or_after" Instant.ofJson? :=
    Json.kept_optional (by simp [fields]) Instant.respects
  have recipient : Json.Kept fields fun r => r.optional "recipient" Json.string? :=
    Json.kept_optional (by simp [fields]) (Json.respects_unchanged _)
  exact Json.Respects.record (by decide) (inResponseTo.bind fun _ => notBefore.bind fun _ =>
    notOnOrAfter.bind fun _ => recipient.bind fun _ => .pure _)

end ConfirmationData

namespace Confirmation

/-- The fields of a confirmation. -/
def fields : List Json.Field :=
  [⟨"method", .required, .unchanged⟩, ⟨"data", .optional, .record ConfirmationData.fields⟩]

theorem respects : Json.Respects ofJson? (.record fields) := by
  have method : Json.Kept fields fun r => r.required "method" Json.string? :=
    Json.kept_required (by simp [fields]) (Json.respects_unchanged _)
  have data : Json.Kept fields fun r => r.optional "data" ConfirmationData.ofJson? :=
    Json.kept_optional (by simp [fields]) ConfirmationData.respects
  exact Json.Respects.record (by decide) (method.bind fun _ => data.bind fun _ => .pure _)

end Confirmation

namespace Subject

/-- The fields of a subject; no confirmations are as good as an empty list. -/
def fields : List Json.Field :=
  [⟨"name_id", .optional, .unchanged⟩,
   ⟨"confirmations", .withDefault (.array []), .list (.record Confirmation.fields)⟩]

theorem respects : Json.Respects ofJson? (.record fields) := by
  have nameId : Json.Kept fields fun r => r.optional "name_id" Json.string? :=
    Json.kept_optional (by simp [fields]) (Json.respects_unchanged _)
  have confirmations :
      Json.Kept fields fun r => r.withDefault "confirmations" (Json.list? Confirmation.ofJson?) [] :=
    Json.kept_list (by simp [fields]) Confirmation.respects
  exact Json.Respects.record (by decide) (nameId.bind fun _ => confirmations.bind fun _ => .pure _)

end Subject

namespace AuthnStatement

/-- The fields of an authentication statement, both optional. -/
def fields : List Json.Field :=
  [⟨"authn_instant", .optional, Instant.respelling⟩, ⟨"context_class_ref", .optional, .unchanged⟩]

theorem respects : Json.Respects ofJson? (.record fields) := by
  have authnInstant : Json.Kept fields fun r => r.optional "authn_instant" Instant.ofJson? :=
    Json.kept_optional (by simp [fields]) Instant.respects
  have context : Json.Kept fields fun r => r.optional "context_class_ref" Json.string? :=
    Json.kept_optional (by simp [fields]) (Json.respects_unchanged _)
  exact Json.Respects.record (by decide) (authnInstant.bind fun _ => context.bind fun _ => .pure _)

end AuthnStatement

namespace VerifiableText

/-- The fields of a verifiable text, which is not verified unless it says so. -/
def fields : List Json.Field :=
  [⟨"value", .required, .unchanged⟩, ⟨"verified", .withDefault (.bool false), .unchanged⟩,
   ⟨"from", .optional, Instant.respelling⟩, ⟨"to", .optional, Instant.respelling⟩]

theorem respects : Json.Respects ofJson? (.record fields) := by
  have value : Json.Kept fields fun r => r.required "value" Json.string? :=
    Json.kept_required (by simp [fields]) (Json.respects_unchanged _)
  have verified : Json.Kept fields fun r => r.withDefault "verified" Json.bool? false :=
    Json.kept_withDefault (by simp [fields]) (Json.bool?_bool false) (Json.respects_unchanged _)
  have start : Json.Kept fields fun r => r.optional "from" Instant.ofJson? :=
    Json.kept_optional (by simp [fields]) Instant.respects
  have stop : Json.Kept fields fun r => r.optional "to" Instant.ofJson? :=
    Json.kept_optional (by simp [fields]) Instant.respects
  exact Json.Respects.record (by decide) (value.bind fun _ => verified.bind fun _ => start.bind fun _ =>
    stop.bind fun _ => .pure _)

end VerifiableText

namespace AddressValue

/-- The fields of an address. -/
def fields : List Json.Field :=
  [⟨"lines", .withDefault (.array []), .list .unchanged⟩, ⟨"post_code", .optional, .unchanged⟩,
   ⟨"international_post_code", .optional, .unchanged⟩, ⟨"uprn", .optional, .unchanged⟩,
   ⟨"verified", .withDefault (.bool false), .unchanged⟩, ⟨"from", .optional, Instant.respelling⟩,
   ⟨"to", .optional, Instant.respelling⟩]

theorem respects : Json.Respects ofJson? (.record fields) := by
  have lines : Json.Kept fields fun r => r.withDefault "lines" (Json.list? Json.string?) [] :=
    Json.kept_list (by simp [fields]) (Json.respects_unchanged _)
  have postCode : Json.Kept fields fun r => r.optional "post_code" Json.string? :=
    Json.kept_optional (by simp [fields]) (Json.respects_unchanged _)
  have international : Json.Kept fields fun r => r.optional "international_post_code" Json.string? :=
    Json.kept_optional (by simp [fields]) (Json.respects_unchanged _)
  have uprn : Json.Kept fields fun r => r.optional "uprn" Json.string? :=
    Json.kept_optional (by simp [fields]) (Json.respects_unchanged _)
  have verified : Json.Kept fields fun r => r.withDefault "verified" Json.bool? false :=
    Json.kept_withDefault (by simp [fields]) (Json.bool?_bool false) (Json.respects_unchanged _)
  have start : Json.Kept fields fun r => r.optional "from" Instant.ofJson? :=
    Json.kept_optional (by simp [fields]) Instant.respects
  have stop : Json.Kept fields fun r => r.optional "to" Instant.ofJson? :=
    Json.kept_optional (by simp [fields]) Instant.respects
  exact Json.Respects.record (by decide) (lines.bind fun _ => postCode.bind fun _ =>
    international.bind fun _ => uprn.bind fun _ => verified.bind fun _ => start.bind fun _ =>
    stop.bind fun _ => .pure _)

end AddressValue

namespace AttributeValue

/-- The fields of a value of a kind, apart from the kind. -/
def fields : ValueKind → List Json.Field
  | .personName | .date | .gender => VerifiableText.fields
  | .address => AddressValue.fields
  | .ipAddress => [⟨"value", .required, .unchanged⟩]

/-- An attribute value is respelled as a value of its kind, which may stand anywhere among its members. -/
def respelling : Json.Respelling := .tagged "type" ValueKind.name fields

theorem respects_ofKind (k : ValueKind) : Json.Respects (ofKind? · k) (.record (fields k)) := by
  cases k with
  | personName => exact VerifiableText.respects.map personName
  | date => exact VerifiableText.respects.map date
  | gender => exact VerifiableText.respects.map gender
  | address => exact AddressValue.respects.map address
  | ipAddress =>
    have value : Json.Kept (fields .ipAddress) fun r => r.required "value" Json.string? :=
      Json.kept_required (by simp [fields]) (Json.respects_unchanged _)
    exact Json.Respects.record (by decide) (value.bind fun _ => .pure _)

theorem type_notMem_fields (k : ValueKind) : "type" ∉ (fields k).map Json.Field.name := by
  cases k <;> decide

/-- The value of an object: its one `type` names the kind, and its other members fit and are those of a
value of that kind. -/
theorem ofJson?_object_iff {room : Nat} {ms : List (String × Json)} {v : AttributeValue} :
    ofJson? room (.object ms) = some v ↔
      ∃ key kind, ms.filter (·.1 == "type") = [(key, .string kind)] ∧
        Json.membersFit (room - 1) (ms.filter (·.1 != "type")) = true ∧
        ∃ k, kindNamed? kind = some k ∧ ofKind? (.object (ms.filter (·.1 != "type"))) k = some v := by
  simp only [ofJson?]
  constructor
  · intro got
    split at got
    · next key kind tag =>
      split at got
      · next fit =>
        obtain ⟨k, named, value⟩ := Option.bind_eq_some_iff.1 got
        exact ⟨key, kind, tag, fit, k, named, value⟩
      · cases got
    · cases got
  · rintro ⟨key, kind, tag, fit, k, named, value⟩
    simp only [tag, fit, if_true, named, Option.bind_some, value]

theorem respects (room : Nat) : Json.Respects (ofJson? room) respelling := by
  rintro _ _ v ⟨k, tagged, step⟩ got
  obtain ⟨key, kind, tag, fit, k', named, value⟩ := ofJson?_object_iff.1 got
  obtain ⟨ms', rfl, tags, others⟩ := step.untagged (type_notMem_fields k)
  -- the kind that the step went by is the one that was read, since there is one tag
  have first : ("type", Json.string k.name) ∈ [(key, Json.string kind)] :=
    tag ▸ List.mem_filter.2 ⟨tagged, rfl⟩
  simp only [List.mem_singleton, Prod.mk.injEq, Json.string.injEq] at first
  obtain ⟨rfl, rfl⟩ := first
  obtain rfl : k = k' := Option.some.inj ((kindNamed?_name k).symm.trans named)
  have fit' : Json.membersFit (room - 1) (ms'.filter (·.1 != "type")) = true := by
    rw [← Json.fits_object_succ] at fit ⊢
    exact (Json.Respelling.record (fields k)).inherits Json.hereditary_fits others fit
  rw [tag, List.singleton_perm] at tags
  exact ofJson?_object_iff.2 ⟨_, _, tags.symm, fit', k, named, respects_ofKind k others value⟩

end AttributeValue

namespace Attribute

/-- The fields of an attribute. -/
def fields : List Json.Field :=
  [⟨"name", .required, .unchanged⟩, ⟨"values", .withDefault (.array []), .list AttributeValue.respelling⟩]

theorem respects (room : Nat) : Json.Respects (ofJson? room) (.record fields) := by
  have name : Json.Kept fields fun r => r.required "name" Json.string? :=
    Json.kept_required (by simp [fields]) (Json.respects_unchanged _)
  have values : Json.Kept fields fun r =>
      r.withDefault "values" (Json.list? (AttributeValue.ofJson? (room - 2))) [] :=
    Json.kept_list (by simp [fields]) (AttributeValue.respects _)
  exact Json.Respects.record (by decide) (name.bind fun _ => values.bind fun _ => .pure _)

end Attribute

namespace AttributeStatement

/-- The one field of a statement of attributes. -/
def fields : List Json.Field :=
  [⟨"attributes", .withDefault (.array []), .list (.record Attribute.fields)⟩]

theorem respects (room : Nat) : Json.Respects (ofJson? room) (.record fields) := by
  have attributes : Json.Kept fields fun r =>
      r.withDefault "attributes" (Json.list? (Attribute.ofJson? (room - 2))) [] :=
    Json.kept_list (by simp [fields]) (Attribute.respects _)
  exact Json.Respects.record (by decide) (attributes.bind fun _ => .pure _)

end AttributeStatement

namespace AssertionSignature

/-- The fields of a signature. -/
def fields : List Json.Field :=
  [⟨"key_id", .required, .unchanged⟩, ⟨"value", .required, .unchanged⟩]

theorem respects : Json.Respects ofJson? (.record fields) := by
  have keyId : Json.Kept fields fun r => r.required "key_id" Json.string? :=
    Json.kept_required (by simp [fields]) (Json.respects_unchanged _)
  have value : Json.Kept fields fun r => r.required "value" (Json.list? Json.byte?) :=
    Json.kept_required (by simp [fields]) (Json.respects_unchanged _)
  exact Json.Respects.record (by decide) (keyId.bind fun _ => value.bind fun _ => .pure _)

end AssertionSignature

namespace Assertion

/-- The fields of an assertion. -/
def fields : List Json.Field :=
  [⟨"id", .optional, .unchanged⟩, ⟨"issuer", .optional, .unchanged⟩,
   ⟨"issue_instant", .optional, Instant.respelling⟩, ⟨"version", .optional, .unchanged⟩,
   ⟨"subject", .optional, .record Subject.fields⟩,
   ⟨"authn_statements", .withDefault (.array []), .list (.record AuthnStatement.fields)⟩,
   ⟨"attribute_statement", .optional, .record AttributeStatement.fields⟩,
   ⟨"signature", .optional, .record AssertionSignature.fields⟩]

/-- How the document of an assertion may be respelled. -/
def respelling : Json.Respelling := .record fields

theorem respects (room : Nat) : Json.Respects (ofJson? room) respelling := by
  have id : Json.Kept fields fun r => r.optional "id" Json.string? :=
    Json.kept_optional (by simp [fields]) (Json.respects_unchanged _)
  have issuer : Json.Kept fields fun r => r.optional "issuer" Json.string? :=
    Json.kept_optional (by simp [fields]) (Json.respects_unchanged _)
  have issueInstant : Json.Kept fields fun r => r.optional "issue_instant" Instant.ofJson? :=
    Json.kept_optional (by simp [fields]) Instant.respects
  have version : Json.Kept fields fun r => r.optional "version" SamlVersion.ofJson? :=
    Json.kept_optional (by simp [fields]) (Json.respects_unchanged _)
  have subject : Json.Kept fields fun r => r.optional "subject" Subject.ofJson? :=
    Json.kept_optional (by simp [fields]) Subject.respects
  have statements : Json.Kept fields fun r =>
      r.withDefault "authn_statements" (Json.list? AuthnStatement.ofJson?) [] :=
    Json.kept_list (by simp [fields]) AuthnStatement.respects
  have statement : Json.Kept fields fun r =>
      r.optional "attribute_statement" (AttributeStatement.ofJson? (room - 1)) :=
    Json.kept_optional (by simp [fields]) (AttributeStatement.respects _)
  have signature : Json.Kept fields fun r => r.optional "signature" AssertionSignature.ofJson? :=
    Json.kept_optional (by simp [fields]) AssertionSignature.respects
  exact Json.Respects.record (by decide) (id.bind fun _ => issuer.bind fun _ => issueInstant.bind fun _ =>
    version.bind fun _ => subject.bind fun _ => statements.bind fun _ => statement.bind fun _ =>
    signature.bind fun _ => .pure _)

namespace Sample

/-- The first second of the year 2000. -/
def newYear : Instant := (Instant.ofNanoseconds? (946684800 * second)).get rfl

/-- What clocks an hour ahead of UTC show then. -/
def hourAhead : Instant := (Instant.ofNanoseconds? (946688400 * second)).get rfl

/-- A first name without a verified flag or validity. -/
def ann : AttributeValue := .personName ⟨"Ann", false, none, none⟩

/-- An assertion of one first name. -/
def named : Assertion :=
  { Assertion.empty with
    id := some "a-1", issueInstant := some newYear, attributeStatement := some ⟨[⟨"firstname", [ann]⟩]⟩ }

/-- The statement of a first name with one value, written after the name or before it. -/
def statement (nameFirst : Bool) (value : Json) : Json :=
  let name : String × Json := ("name", .string "firstname")
  let values : String × Json := ("values", .array [value])
  .object [("attributes", .array [.object (if nameFirst then [name, values] else [values, name])])]

/-- The document of that assertion in another spelling. -/
def respelled : Json :=
  .object [("note", .bool true), ("issuer", .null), ("issue_instant", .string "2000-01-01T01:00:00+01:00"),
    ("attribute_statement",
      statement false (.object [("value", .string "Ann"), ("type", .string "person_name")])),
    ("id", .string "a-1")]

/-- The text of that spelling, with a blank before every token. -/
def text : String :=
  " \x7b \"note\" : true , \"issuer\" : null , \"issue_instant\" : \"2000-01-01T01:00:00+01:00\" , " ++
    "\"attribute_statement\" : \x7b \"attributes\" : [ \x7b \"values\" : [ \x7b \"value\" : \"Ann\" , " ++
    "\"type\" : \"person_name\" \x7d ] , \"name\" : \"firstname\" \x7d ] \x7d , \"id\" : \"a-1\" \x7d"

theorem spaced_text : Json.Spaced respelled.tokens text.toList := by
  have blank : Json.Blank [' '] := List.forall_mem_singleton.2 rfl
  have blanks : text = String.ofList (respelled.tokens.flatMap ([' '] ++ ·)) := by decide +kernel
  rw [blanks, String.toList_ofList]
  exact Json.spaced_flatMap blank _

theorem writes_hourAhead : newYear.Writes "2000-01-01T01:00:00+01:00" := by
  have text : "2000-01-01T01:00:00+01:00" =
      String.ofList (hourAhead.localChars ++ offsetChars false 60) := by
    decide +kernel
  rw [text]
  exact .offset false (by decide) ⟨by decide, rfl⟩

theorem step_value {v v' : Json} (step : AttributeValue.respelling.Step v v') :
    (Json.Respelling.record AttributeStatement.fields).Step (statement false v) (statement false v') := by
  have values : (Json.Respelling.list AttributeValue.respelling).Step (.array [v]) (.array [v']) :=
    .element [] [] step
  have inner : (Json.Respelling.record Attribute.fields).Step
      (.object [("values", .array [v]), ("name", .string "firstname")])
      (.object [("values", .array [v']), ("name", .string "firstname")]) :=
    .member (.tail _ (.head _)) values
  have outer : (Json.Respelling.list (.record Attribute.fields)).Step _ _ := .element [] [] inner
  exact .member (.head _) outer

/-- The steps that lead from one spelling to the other, each of them at the first member. -/
theorem steps : respelling.Steps named.toJson respelled := by
  let value : String × Json := ("value", .string "Ann")
  let verified : String × Json := ("verified", .bool false)
  let kind : String × Json := ("type", .string "person_name")
  have moved : AttributeValue.respelling.Step (.object [kind, value, verified])
      (.object [verified, value, kind]) :=
    .kind .personName List.mem_cons_self (.reorder (List.reverse_perm _).symm)
  have unverified : AttributeValue.respelling.Step (.object [verified, value, kind])
      (.object [value, kind]) :=
    .kind .personName (.tail _ (.tail _ (.head _))) (.leaveOut (.tail _ (.tail _ (.head _))) rfl)
  have valuesFirst (v : Json) :
      (Json.Respelling.record AttributeStatement.fields).Step (statement true v) (statement false v) :=
    .member (.head _) (.element [] [] (.reorder (.swap _ _ _)))
  have inStatement {s s' : Json} (rest : List (String × Json))
      (step : (Json.Respelling.record AttributeStatement.fields).Step s s') :
      respelling.Step (.object (("attribute_statement", s) :: rest))
        (.object (("attribute_statement", s') :: rest)) :=
    .member (.tail _ (.tail _ (.tail _ (.tail _ (.tail _ (.tail _ (.head _))))))) step
  have atHour : Instant.respelling.Step newYear.toJson (.string "2000-01-01T01:00:00+01:00") :=
    .rewritten (by decide) .utc writes_hourAhead
  show Relation.ReflTransGen _ _ _
  refine .head (.reorder (List.reverse_perm _).symm) ?_
  refine .head (inStatement _ (valuesFirst ann.toJson)) ?_
  refine .head (inStatement _ (step_value moved)) ?_
  refine .head (inStatement _ (step_value unverified)) ?_
  refine .head (.reorder (.swap _ _ _)) ?_
  refine .head (.leaveOut (.tail _ (.tail _ (.tail _ (.tail _ (.tail _ (.head _)))))) rfl) ?_
  refine .head (.reorder (.swap _ _ _)) ?_
  refine .head (.member (.tail _ (.tail _ (.head _))) atHour) ?_
  refine .head (.null (.tail _ (.head _)) rfl (by decide)) ?_
  exact .single (.unknown (by decide) (.bool true))

end Sample

end Assertion
end RelyingParty
