import RelyingParty.Assertion.Json
import RelyingParty.Proofs.Calendar.InstantText
import RelyingParty.Proofs.Json.Record

/-!
# Parts of assertions read back

Every part that a signature covers is written as a regular document. A part with legible instants is read
back from it, given room for its nesting.
-/

namespace RelyingParty
set_option autoImplicit false
open Calendar

theorem Calendar.Instant.ofJson?_toJson {t : Instant} (legible : t.Legible) :
    Instant.ofJson? t.toJson = some t := by
  rw [Instant.toJson, Instant.ofJson?, Json.string?, Option.bind_some, Instant.ofText?_text legible]

theorem Calendar.Instant.toJson_ne_null (t : Instant) : t.toJson ≠ .null := nofun

theorem Calendar.Instant.regular_toJson (t : Instant) : t.toJson.Regular := by simp [Instant.toJson]

theorem SamlVersion.ofJson?_toJson (v : SamlVersion) : SamlVersion.ofJson? v.toJson = some v := by
  cases v <;> exact Json.constant?_name _ (by decide)

theorem SamlVersion.toJson_ne_null (v : SamlVersion) : v.toJson ≠ .null := nofun

namespace ConfirmationData

/-- The instants in confirmation data. -/
def instants (d : ConfirmationData) : List Instant := d.notBefore.toList ++ d.notOnOrAfter.toList

theorem ofJson?_toJson {d : ConfirmationData} (legible : ∀ t ∈ d.instants, t.Legible) :
    ofJson? d.toJson = some d := by
  obtain ⟨legibleStart, legibleStop⟩ := List.forall_mem_append.1 legible
  have order : Json.InOrder _ ["in_response_to", "not_before", "not_on_or_after", "recipient"] :=
    (((Json.inOrder_member? "in_response_to" .string d.inResponseTo).append
      (Json.inOrder_member? "not_before" Instant.toJson d.notBefore)).append
      (Json.inOrder_member? "not_on_or_after" Instant.toJson d.notOnOrAfter)).append
      (Json.inOrder_member? "recipient" .string d.recipient)
  obtain ⟨r, record, fields⟩ := Json.Record.ofJson?_object order (by decide)
  have request : r.optional "in_response_to" Json.string? = some d.inResponseTo :=
    fields.optional (by simp) Json.string?_string Json.string_ne_null
  have start : r.optional "not_before" Instant.ofJson? = some d.notBefore :=
    fields.optional_of_mem (by simp) (fun t given => Instant.ofJson?_toJson (legibleStart t given))
      Instant.toJson_ne_null
  have stop : r.optional "not_on_or_after" Instant.ofJson? = some d.notOnOrAfter :=
    fields.optional_of_mem (by simp) (fun t given => Instant.ofJson?_toJson (legibleStop t given))
      Instant.toJson_ne_null
  have recipient : r.optional "recipient" Json.string? = some d.recipient :=
    fields.optional (by simp) Json.string?_string Json.string_ne_null
  simp only [ofJson?, toJson, record, Option.bind_eq_bind, Option.bind_some, request, start, stop,
    recipient]
  rfl

theorem toJson_ne_null (d : ConfirmationData) : d.toJson ≠ .null := nofun

theorem regular_toJson (d : ConfirmationData) : d.toJson.Regular := by
  have request := Json.regular_member? "in_response_to" d.inResponseTo Json.regular_string
  have start := Json.regular_member? "not_before" d.notBefore Instant.regular_toJson
  have stop := Json.regular_member? "not_on_or_after" d.notOnOrAfter Instant.regular_toJson
  have recipient := Json.regular_member? "recipient" d.recipient Json.regular_string
  rw [toJson, Json.regular_object]
  simp only [List.forall_mem_append]
  exact ⟨⟨⟨request, start⟩, stop⟩, recipient⟩

end ConfirmationData

namespace Confirmation

/-- The instants in a confirmation. -/
def instants (c : Confirmation) : List Instant := c.data.toList.flatMap ConfirmationData.instants

theorem ofJson?_toJson {c : Confirmation} (legible : ∀ t ∈ c.instants, t.Legible) :
    ofJson? c.toJson = some c := by
  have legibleData := List.forall_mem_flatMap.1 legible
  have order : Json.InOrder _ ["method", "data"] :=
    (Json.inOrder_single "method" (.string c.method)).append
      (Json.inOrder_member? "data" ConfirmationData.toJson c.data)
  obtain ⟨r, record, fields⟩ := Json.Record.ofJson?_object order (by decide)
  have method : r.required "method" Json.string? = some c.method :=
    fields.required (by simp) (Json.string?_string _)
  have data : r.optional "data" ConfirmationData.ofJson? = some c.data :=
    fields.optional_of_mem (by simp)
      (fun d given => ConfirmationData.ofJson?_toJson (legibleData d given))
      ConfirmationData.toJson_ne_null
  rw [List.singleton_append] at record
  simp only [ofJson?, toJson, record, Option.bind_eq_bind, Option.bind_some, method, data]
  rfl

theorem regular_toJson (c : Confirmation) : c.toJson.Regular := by
  have data := Json.regular_member? "data" c.data ConfirmationData.regular_toJson
  rw [toJson, Json.regular_object, List.forall_mem_cons]
  exact ⟨Json.regular_string _, data⟩

end Confirmation

namespace Subject

/-- The instants in a subject. -/
def instants (s : Subject) : List Instant := s.confirmations.flatMap Confirmation.instants

theorem ofJson?_toJson {s : Subject} (legible : ∀ t ∈ s.instants, t.Legible) :
    ofJson? s.toJson = some s := by
  have legibleConfirmations := List.forall_mem_flatMap.1 legible
  have order : Json.InOrder _ ["name_id", "confirmations"] :=
    (Json.inOrder_member? "name_id" .string s.nameId).append
      (Json.inOrder_single "confirmations" (.array (s.confirmations.map Confirmation.toJson)))
  obtain ⟨r, record, fields⟩ := Json.Record.ofJson?_object order (by decide)
  have nameId : r.optional "name_id" Json.string? = some s.nameId :=
    fields.optional (by simp) Json.string?_string Json.string_ne_null
  have confirmations : r.withDefault "confirmations" (Json.list? Confirmation.ofJson?) [] =
      some s.confirmations :=
    fields.withDefault (by simp)
      (Json.list?_map_of_mem fun c given => Confirmation.ofJson?_toJson (legibleConfirmations c given))
  simp only [ofJson?, toJson, record, Option.bind_eq_bind, Option.bind_some, nameId, confirmations]
  rfl

theorem toJson_ne_null (s : Subject) : s.toJson ≠ .null := nofun

theorem regular_toJson (s : Subject) : s.toJson.Regular := by
  have nameId := Json.regular_member? "name_id" s.nameId Json.regular_string
  rw [toJson, Json.regular_object]
  simp only [List.forall_mem_append, List.forall_mem_singleton, Json.regular_array, List.forall_mem_map]
  exact ⟨nameId, fun c _ => c.regular_toJson⟩

end Subject

namespace AuthnStatement

/-- The instants in an authentication statement. -/
def instants (s : AuthnStatement) : List Instant := s.authnInstant.toList

theorem ofJson?_toJson {s : AuthnStatement} (legible : ∀ t ∈ s.instants, t.Legible) :
    ofJson? s.toJson = some s := by
  have order : Json.InOrder _ ["authn_instant", "context_class_ref"] :=
    (Json.inOrder_member? "authn_instant" Instant.toJson s.authnInstant).append
      (Json.inOrder_member? "context_class_ref" .string s.contextClassRef)
  obtain ⟨r, record, fields⟩ := Json.Record.ofJson?_object order (by decide)
  have authnInstant : r.optional "authn_instant" Instant.ofJson? = some s.authnInstant :=
    fields.optional_of_mem (by simp) (fun t given => Instant.ofJson?_toJson (legible t given))
      Instant.toJson_ne_null
  have context : r.optional "context_class_ref" Json.string? = some s.contextClassRef :=
    fields.optional (by simp) Json.string?_string Json.string_ne_null
  simp only [ofJson?, toJson, record, Option.bind_eq_bind, Option.bind_some, authnInstant, context]
  rfl

theorem regular_toJson (s : AuthnStatement) : s.toJson.Regular := by
  have authnInstant := Json.regular_member? "authn_instant" s.authnInstant Instant.regular_toJson
  have context := Json.regular_member? "context_class_ref" s.contextClassRef Json.regular_string
  rw [toJson, Json.regular_object]
  simp only [List.forall_mem_append]
  exact ⟨authnInstant, context⟩

end AuthnStatement

namespace VerifiableText

theorem inOrder_members (v : VerifiableText) :
    Json.InOrder v.members ["value", "verified", "from", "to"] :=
  ((((Json.inOrder_single "value" (.string v.value)).append
    (Json.inOrder_single "verified" (.bool v.verified))).append
    (Json.inOrder_member? "from" Instant.toJson v.from?)).append
    (Json.inOrder_member? "to" Instant.toJson v.to?))

/-- The instants in a verifiable text. -/
def instants (v : VerifiableText) : List Instant := v.from?.toList ++ v.to?.toList

theorem ofJson?_toJson {v : VerifiableText} (legible : ∀ t ∈ v.instants, t.Legible) :
    ofJson? v.toJson = some v := by
  obtain ⟨legibleStart, legibleStop⟩ := List.forall_mem_append.1 legible
  obtain ⟨r, record, fields⟩ := Json.Record.ofJson?_object v.inOrder_members (by decide)
  have value : r.required "value" Json.string? = some v.value :=
    fields.required (by simp [members]) (Json.string?_string _)
  have verified : r.withDefault "verified" Json.bool? false = some v.verified :=
    fields.withDefault (by simp [members]) (Json.bool?_bool _)
  have start : r.optional "from" Instant.ofJson? = some v.from? :=
    fields.optional_of_mem (by simp [members])
      (fun t given => Instant.ofJson?_toJson (legibleStart t given)) Instant.toJson_ne_null
  have stop : r.optional "to" Instant.ofJson? = some v.to? :=
    fields.optional_of_mem (by simp [members])
      (fun t given => Instant.ofJson?_toJson (legibleStop t given)) Instant.toJson_ne_null
  simp only [ofJson?, toJson, record, Option.bind_eq_bind, Option.bind_some, value, verified, start,
    stop]
  rfl

theorem regular_members (v : VerifiableText) : ∀ m ∈ v.members, m.2.Regular := by
  have start := Json.regular_member? "from" v.from? Instant.regular_toJson
  have stop := Json.regular_member? "to" v.to? Instant.regular_toJson
  simp only [members, List.forall_mem_append, List.forall_mem_cons]
  exact ⟨⟨⟨Json.regular_string _, Json.regular_bool _, nofun⟩, start⟩, stop⟩

theorem fits_members (v : VerifiableText) (room : Nat) : Json.membersFit room v.members = true := by
  have start := Json.fits_member? "from" v.from? (fun t => Json.fits_string room t.text)
  have stop := Json.fits_member? "to" v.to? (fun t => Json.fits_string room t.text)
  rw [Json.membersFit_iff]
  simp only [members, List.forall_mem_append, List.forall_mem_cons]
  exact ⟨⟨⟨Json.fits_string _ _, by rw [Json.fits], nofun⟩, start⟩, stop⟩

end VerifiableText

namespace AddressValue

theorem inOrder_members (a : AddressValue) : Json.InOrder a.members
    ["lines", "post_code", "international_post_code", "uprn", "verified", "from", "to"] :=
  ((((((Json.inOrder_single "lines" (Json.strings a.lines)).append
    (Json.inOrder_member? "post_code" .string a.postCode)).append
    (Json.inOrder_member? "international_post_code" .string a.internationalPostCode)).append
    (Json.inOrder_member? "uprn" .string a.uprn)).append
    (Json.inOrder_single "verified" (.bool a.verified))).append
    (Json.inOrder_member? "from" Instant.toJson a.from?)).append
    (Json.inOrder_member? "to" Instant.toJson a.to?)

/-- The instants in an address. -/
def instants (a : AddressValue) : List Instant := a.from?.toList ++ a.to?.toList

theorem ofJson?_toJson {a : AddressValue} (legible : ∀ t ∈ a.instants, t.Legible) :
    ofJson? a.toJson = some a := by
  obtain ⟨legibleStart, legibleStop⟩ := List.forall_mem_append.1 legible
  obtain ⟨r, record, fields⟩ := Json.Record.ofJson?_object a.inOrder_members (by decide)
  have lines : r.withDefault "lines" (Json.list? Json.string?) [] = some a.lines :=
    fields.withDefault (by simp [members, Json.strings]) (Json.list?_map Json.string?_string a.lines)
  have postCode : r.optional "post_code" Json.string? = some a.postCode :=
    fields.optional (by simp [members]) Json.string?_string Json.string_ne_null
  have international :
      r.optional "international_post_code" Json.string? = some a.internationalPostCode :=
    fields.optional (by simp [members]) Json.string?_string Json.string_ne_null
  have uprn : r.optional "uprn" Json.string? = some a.uprn :=
    fields.optional (by simp [members]) Json.string?_string Json.string_ne_null
  have verified : r.withDefault "verified" Json.bool? false = some a.verified :=
    fields.withDefault (by simp [members]) (Json.bool?_bool _)
  have start : r.optional "from" Instant.ofJson? = some a.from? :=
    fields.optional_of_mem (by simp [members])
      (fun t given => Instant.ofJson?_toJson (legibleStart t given)) Instant.toJson_ne_null
  have stop : r.optional "to" Instant.ofJson? = some a.to? :=
    fields.optional_of_mem (by simp [members])
      (fun t given => Instant.ofJson?_toJson (legibleStop t given)) Instant.toJson_ne_null
  simp only [ofJson?, toJson, record, Option.bind_eq_bind, Option.bind_some, lines, postCode,
    international, uprn, verified, start, stop]
  rfl

theorem regular_members (a : AddressValue) : ∀ m ∈ a.members, m.2.Regular := by
  have postCode := Json.regular_member? "post_code" a.postCode Json.regular_string
  have international :=
    Json.regular_member? "international_post_code" a.internationalPostCode Json.regular_string
  have uprn := Json.regular_member? "uprn" a.uprn Json.regular_string
  have start := Json.regular_member? "from" a.from? Instant.regular_toJson
  have stop := Json.regular_member? "to" a.to? Instant.regular_toJson
  simp only [members, List.forall_mem_append, List.forall_mem_singleton]
  exact ⟨⟨⟨⟨⟨⟨Json.regular_strings _, postCode⟩, international⟩, uprn⟩, Json.regular_bool _⟩, start⟩,
    stop⟩

theorem fits_members (a : AddressValue) {room : Nat} (deep : 0 < room) :
    Json.membersFit room a.members = true := by
  have postCode := Json.fits_member? "post_code" a.postCode (Json.fits_string room)
  have international :=
    Json.fits_member? "international_post_code" a.internationalPostCode (Json.fits_string room)
  have uprn := Json.fits_member? "uprn" a.uprn (Json.fits_string room)
  have start := Json.fits_member? "from" a.from? (fun t => Json.fits_string room t.text)
  have stop := Json.fits_member? "to" a.to? (fun t => Json.fits_string room t.text)
  rw [Json.membersFit_iff]
  simp only [members, List.forall_mem_append, List.forall_mem_singleton]
  exact ⟨⟨⟨⟨⟨⟨Json.fits_strings deep _, postCode⟩, international⟩, uprn⟩, by rw [Json.fits]⟩, start⟩,
    stop⟩

end AddressValue

namespace AttributeValue

/-- The names of the members of a value of a kind. -/
def memberNames : ValueKind → List String
  | .personName | .date | .gender => ["value", "verified", "from", "to"]
  | .address => ["lines", "post_code", "international_post_code", "uprn", "verified", "from", "to"]
  | .ipAddress => ["value"]

theorem inOrder_members (v : AttributeValue) : Json.InOrder v.members (memberNames v.kind) := by
  cases v with
  | personName p => exact p.inOrder_members
  | date d => exact d.inOrder_members
  | gender g => exact g.inOrder_members
  | address a => exact a.inOrder_members
  | ipAddress value => exact Json.inOrder_single "value" (.string value)

theorem type_notMem_memberNames (k : ValueKind) : "type" ∉ memberNames k := by
  cases k <;> decide

/-- The kind is told apart from the other members by its name. -/
theorem name_ne_type (v : AttributeValue) : ∀ m ∈ v.members, m.1 ≠ "type" := by
  intro m hm same
  have named := v.inOrder_members.name_mem m hm
  exact type_notMem_memberNames v.kind (same ▸ named)

theorem fits_members (v : AttributeValue) {room : Nat} (deep : 0 < room) :
    Json.membersFit room v.members = true := by
  cases v with
  | personName p => exact p.fits_members room
  | date d => exact d.fits_members room
  | gender g => exact g.fits_members room
  | address a => exact a.fits_members deep
  | ipAddress value => simp [members, Json.membersFit, Json.fits_string]

theorem regular_toJson (v : AttributeValue) : v.toJson.Regular := by
  rw [toJson, Json.regular_object, List.forall_mem_cons]
  refine ⟨Json.regular_string _, ?_⟩
  cases v with
  | personName p => exact p.regular_members
  | date d => exact d.regular_members
  | gender g => exact g.regular_members
  | address a => exact a.regular_members
  | ipAddress value => simp [members]

theorem kindNamed?_name (k : ValueKind) : kindNamed? k.name = some k := by
  cases k <;> decide

/-- The instants in an attribute value. -/
def instants : AttributeValue → List Instant
  | personName v | date v | gender v => v.instants
  | address a => a.instants
  | ipAddress _ => []

/-- A value is read back from its members, once its kind is known. -/
theorem ofKind?_members {v : AttributeValue} (legible : ∀ t ∈ v.instants, t.Legible) :
    ofKind? (.object v.members) v.kind = some v := by
  cases v with
  | personName p => exact congrArg (Option.map personName) (VerifiableText.ofJson?_toJson legible)
  | date d => exact congrArg (Option.map date) (VerifiableText.ofJson?_toJson legible)
  | gender g => exact congrArg (Option.map gender) (VerifiableText.ofJson?_toJson legible)
  | address a => exact congrArg (Option.map address) (AddressValue.ofJson?_toJson legible)
  | ipAddress value =>
    obtain ⟨r, record, fields⟩ :=
      Json.Record.ofJson?_object (Json.inOrder_single "value" (.string value)) (by decide)
    have text : r.required "value" Json.string? = some value :=
      fields.required (by simp) (Json.string?_string _)
    simp only [kind, members, ofKind?, record, Option.bind_eq_bind, Option.bind_some, text]
    rfl

theorem ofJson?_toJson {room : Nat} (deep : 2 ≤ room) {v : AttributeValue}
    (legible : ∀ t ∈ v.instants, t.Legible) : ofJson? room v.toJson = some v := by
  have others :
      (("type", Json.string v.kind.name) :: v.members).filter (fun m => m.1 != "type") = v.members := by
    rw [List.filter_cons_of_neg (by simp)]
    exact List.filter_eq_self.2 fun m hm => by simpa using v.name_ne_type m hm
  have tag : (("type", Json.string v.kind.name) :: v.members).filter (fun m => m.1 == "type") =
      [("type", .string v.kind.name)] := by
    rw [List.filter_cons_of_pos (by simp)]
    congr 1
    exact List.filter_eq_nil_iff.2 fun m hm => by simpa using v.name_ne_type m hm
  simp only [ofJson?, toJson, others, tag]
  rw [if_pos (v.fits_members (by omega)), kindNamed?_name, Option.bind_some,
    ofKind?_members legible]

end AttributeValue

namespace Attribute

/-- The instants in an attribute. -/
def instants (a : Attribute) : List Instant := a.values.flatMap AttributeValue.instants

theorem ofJson?_toJson {room : Nat} (deep : 4 ≤ room) {a : Attribute}
    (legible : ∀ t ∈ a.instants, t.Legible) : ofJson? room a.toJson = some a := by
  have legibleValues := List.forall_mem_flatMap.1 legible
  have inner : 2 ≤ room - 2 := by omega
  have order : Json.InOrder _ ["name", "values"] :=
    (Json.inOrder_single "name" (.string a.name)).append
      (Json.inOrder_single "values" (.array (a.values.map AttributeValue.toJson)))
  obtain ⟨r, record, fields⟩ := Json.Record.ofJson?_object order (by decide)
  have name : r.required "name" Json.string? = some a.name :=
    fields.required (by simp) (Json.string?_string _)
  have values :
      r.withDefault "values" (Json.list? (AttributeValue.ofJson? (room - 2))) [] = some a.values :=
    fields.withDefault (by simp)
      (Json.list?_map_of_mem fun v given => AttributeValue.ofJson?_toJson inner (legibleValues v given))
  rw [List.singleton_append] at record
  simp only [ofJson?, toJson, record, Option.bind_eq_bind, Option.bind_some, name, values]
  rfl

theorem regular_toJson (a : Attribute) : a.toJson.Regular := by
  simp only [toJson, Json.regular_object, List.forall_mem_cons, Json.regular_array, List.forall_mem_map]
  exact ⟨Json.regular_string _, fun v _ => v.regular_toJson, List.forall_mem_nil _⟩

end Attribute

namespace AttributeStatement

/-- The instants in a statement of attributes. -/
def instants (s : AttributeStatement) : List Instant := s.attributes.flatMap Attribute.instants

theorem ofJson?_toJson {room : Nat} (deep : 6 ≤ room) {s : AttributeStatement}
    (legible : ∀ t ∈ s.instants, t.Legible) : ofJson? room s.toJson = some s := by
  have legibleAttributes := List.forall_mem_flatMap.1 legible
  have inner : 4 ≤ room - 2 := by omega
  obtain ⟨r, record, fields⟩ := Json.Record.ofJson?_object
    (Json.inOrder_single "attributes" (.array (s.attributes.map Attribute.toJson))) (by decide)
  have attributes :
      r.withDefault "attributes" (Json.list? (Attribute.ofJson? (room - 2))) [] = some s.attributes :=
    fields.withDefault (by simp)
      (Json.list?_map_of_mem fun a given => Attribute.ofJson?_toJson inner (legibleAttributes a given))
  simp only [ofJson?, toJson, record, Option.bind_eq_bind, Option.bind_some, attributes]
  rfl

theorem toJson_ne_null (s : AttributeStatement) : s.toJson ≠ .null := nofun

theorem regular_toJson (s : AttributeStatement) : s.toJson.Regular := by
  simp only [toJson, Json.regular_object, List.forall_mem_singleton, Json.regular_array,
    List.forall_mem_map]
  exact fun a _ => a.regular_toJson

end AttributeStatement

namespace Assertion

/-- The instants in an assertion. -/
def instants (a : Assertion) : List Instant :=
  a.issueInstant.toList ++ a.subject.toList.flatMap Subject.instants
    ++ a.authnStatements.flatMap AuthnStatement.instants
    ++ a.attributeStatement.toList.flatMap AttributeStatement.instants

/-- All instants in the assertion are legible. -/
def Legible (a : Assertion) : Prop := ∀ t ∈ a.instants, t.Legible

instance (a : Assertion) : Decidable a.Legible := inferInstanceAs (Decidable (∀ t ∈ a.instants, t.Legible))

namespace Legible

variable {a : Assertion}

theorem issueInstant (legible : a.Legible) : ∀ t ∈ a.issueInstant.toList, t.Legible := by
  simp only [Legible, instants, List.forall_mem_append] at legible
  exact legible.1.1.1

theorem subject (legible : a.Legible) : ∀ s ∈ a.subject.toList, ∀ t ∈ s.instants, t.Legible := by
  simp only [Legible, instants, List.forall_mem_append] at legible
  exact List.forall_mem_flatMap.1 legible.1.1.2

theorem authnStatements (legible : a.Legible) : ∀ s ∈ a.authnStatements, ∀ t ∈ s.instants, t.Legible := by
  simp only [Legible, instants, List.forall_mem_append] at legible
  exact List.forall_mem_flatMap.1 legible.1.2

theorem attributeStatement (legible : a.Legible) :
    ∀ s ∈ a.attributeStatement.toList, ∀ t ∈ s.instants, t.Legible := by
  simp only [Legible, instants, List.forall_mem_append] at legible
  exact List.forall_mem_flatMap.1 legible.2

end Legible
end Assertion

end RelyingParty
