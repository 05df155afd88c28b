import RelyingParty.Canonical
import RelyingParty.Proofs.Dataset.ReadBack

/-!
# Canonical attributes read back

Every value of the canonical schema, its flag and the ends of its validity included, is written as a
regular document, and read back from it where those ends are legible.
-/

namespace RelyingParty
set_option autoImplicit false
open Calendar

namespace CanonicalValue

variable {α : Type} {read : Json.Decoder α} {write : α → Json}

theorem ofJson?_toJson (back : ∀ a, read (write a) = some a) {v : CanonicalValue α}
    (legible : Validity.Legible ⟨v.from?, v.to?⟩) : ofJson? read (v.toJson write) = some v := by
  obtain ⟨legibleStart, legibleStop⟩ := List.forall_mem_append.1 legible
  have front : Json.InOrder [("value", write v.value), ("verified", .bool v.verified)]
      ["value", "verified"] := List.Sublist.refl _
  have order : Json.InOrder _ ["value", "verified", "from", "to"] :=
    (front.append (Json.inOrder_member? "from" Instant.toJson v.from?)).append
      (Json.inOrder_member? "to" Instant.toJson v.to?)
  obtain ⟨r, record, fields⟩ := Json.Record.ofJson?_object order (by decide)
  have value : r.required "value" read = some v.value := fields.required (by simp) (back v.value)
  have verified : r.required "verified" Json.bool? = some v.verified :=
    fields.required (by simp) (Json.bool?_bool _)
  have start : r.optional "from" Instant.ofJson? = some v.from? :=
    fields.optional_of_mem (by simp) (fun t given => Instant.ofJson?_toJson (legibleStart t given))
      Instant.toJson_ne_null
  have stop : r.optional "to" Instant.ofJson? = some v.to? :=
    fields.optional_of_mem (by simp) (fun t given => Instant.ofJson?_toJson (legibleStop t given))
      Instant.toJson_ne_null
  simp only [ofJson?, toJson, record, Option.bind_eq_bind, Option.bind_some, value, verified, start,
    stop]
  rfl

theorem toJson_ne_null (v : CanonicalValue α) : v.toJson write ≠ .null := nofun

theorem regular_toJson (regular : ∀ a, (write a).Regular) (v : CanonicalValue α) :
    (v.toJson write).Regular := by
  have start := Json.regular_member? "from" v.from? Instant.regular_toJson
  have stop := Json.regular_member? "to" v.to? Instant.regular_toJson
  rw [toJson, Json.regular_object]
  simp only [List.forall_mem_append, List.forall_mem_cons]
  exact ⟨⟨⟨regular v.value, Json.regular_bool _, nofun⟩, start⟩, stop⟩

end CanonicalValue

namespace CanonicalAddress

theorem ofJson?_toJson {a : CanonicalAddress} (legible : Validity.Legible ⟨a.from?, a.to?⟩) :
    ofJson? a.toJson = some a := by
  obtain ⟨legibleStart, legibleStop⟩ := List.forall_mem_append.1 legible
  have order : Json.InOrder _
      ["verified", "from", "to", "postCode", "internationalPostCode", "uprn", "lines"] :=
    ((((((Json.inOrder_single "verified" (.bool a.verified)).append
      (Json.inOrder_member? "from" Instant.toJson a.from?)).append
      (Json.inOrder_member? "to" Instant.toJson a.to?)).append
      (Json.inOrder_member? "postCode" .string a.postCode)).append
      (Json.inOrder_member? "internationalPostCode" .string a.internationalPostCode)).append
      (Json.inOrder_member? "uprn" .string a.uprn)).append
      (Json.inOrder_single "lines" (Json.strings a.lines))
  obtain ⟨r, record, fields⟩ := Json.Record.ofJson?_object order (by decide)
  have verified : r.required "verified" Json.bool? = some a.verified :=
    fields.required (by simp) (Json.bool?_bool _)
  have start : r.optional "from" Instant.ofJson? = some a.from? :=
    fields.optional_of_mem (by simp) (fun t given => Instant.ofJson?_toJson (legibleStart t given))
      Instant.toJson_ne_null
  have stop : r.optional "to" Instant.ofJson? = some a.to? :=
    fields.optional_of_mem (by simp) (fun t given => Instant.ofJson?_toJson (legibleStop t given))
      Instant.toJson_ne_null
  have postCode : r.optional "postCode" Json.string? = some a.postCode :=
    fields.optional (by simp) Json.string?_string Json.string_ne_null
  have international :
      r.optional "internationalPostCode" Json.string? = some a.internationalPostCode :=
    fields.optional (by simp) Json.string?_string Json.string_ne_null
  have uprn : r.optional "uprn" Json.string? = some a.uprn :=
    fields.optional (by simp) Json.string?_string Json.string_ne_null
  have lines : r.required "lines" (Json.list? Json.string?) = some a.lines :=
    fields.required (by simp [Json.strings]) (Json.list?_map Json.string?_string a.lines)
  simp only [ofJson?, toJson, record, Option.bind_eq_bind, Option.bind_some, verified, start, stop,
    postCode, international, uprn, lines]
  rfl

theorem regular_toJson (a : CanonicalAddress) : a.toJson.Regular := by
  have start := Json.regular_member? "from" a.from? Instant.regular_toJson
  have stop := Json.regular_member? "to" a.to? Instant.regular_toJson
  have postCode := Json.regular_member? "postCode" a.postCode Json.regular_string
  have international :=
    Json.regular_member? "internationalPostCode" a.internationalPostCode Json.regular_string
  have uprn := Json.regular_member? "uprn" a.uprn Json.regular_string
  rw [toJson, Json.regular_object]
  simp only [List.forall_mem_append, List.forall_mem_singleton]
  exact ⟨⟨⟨⟨⟨⟨Json.regular_bool _, start⟩, stop⟩, postCode⟩, international⟩, uprn⟩,
    Json.regular_strings _⟩

end CanonicalAddress

namespace CanonicalAttributes

/-- All instants in the attributes are legible. -/
def Legible (a : CanonicalAttributes) : Prop := ∀ v ∈ a.intervals, v.Legible

instance (a : CanonicalAttributes) : Decidable a.Legible :=
  inferInstanceAs (Decidable (∀ v ∈ a.intervals, v.Legible))

theorem ofJson?_toJson {a : CanonicalAttributes} (legible : a.Legible) : ofJson? a.toJson = some a := by
  simp only [Legible, intervals, List.forall_mem_append, List.forall_mem_cons, List.forall_mem_map] at legible
  obtain ⟨⟨⟨⟨legibleFirst, legibleMiddle⟩, legibleSurnames⟩, legibleGender⟩, legibleBirth,
    legibleAddresses⟩ := legible
  have middle : Json.InOrder [("surnames", .array (a.surnames.map (CanonicalValue.toJson .string))),
      ("dateOfBirth", a.dateOfBirth.toJson Date.toJson)] ["surnames", "dateOfBirth"] :=
    List.Sublist.refl _
  have order : Json.InOrder _
      ["firstName", "middleNames", "surnames", "dateOfBirth", "gender", "addresses"] :=
    ((((Json.inOrder_single "firstName" (a.firstName.toJson .string)).append
      (Json.inOrder_member? "middleNames" (CanonicalValue.toJson .string) a.middleNames)).append
      middle).append
      (Json.inOrder_member? "gender" (CanonicalValue.toJson Gender.toJson) a.gender)).append
      (Json.inOrder_single "addresses" (.array (a.addresses.map CanonicalAddress.toJson)))
  obtain ⟨r, record, fields⟩ := Json.Record.ofJson?_object order (by decide)
  have name {v : CanonicalValue String} (legible : Validity.Legible ⟨v.from?, v.to?⟩) :
      CanonicalValue.ofJson? Json.string? (v.toJson .string) = some v :=
    CanonicalValue.ofJson?_toJson Json.string?_string legible
  have firstName : r.required "firstName" (CanonicalValue.ofJson? Json.string?) = some a.firstName :=
    fields.required (by simp) (name legibleFirst)
  have middleNames :
      r.optional "middleNames" (CanonicalValue.ofJson? Json.string?) = some a.middleNames :=
    fields.optional_of_mem (by simp) (fun v given => name (legibleMiddle v given))
      CanonicalValue.toJson_ne_null
  have surnames : r.required "surnames" (Json.list? (CanonicalValue.ofJson? Json.string?)) =
      some a.surnames :=
    fields.required (by simp) (Json.list?_map_of_mem fun v given => name (legibleSurnames v given))
  have dateOfBirth :
      r.required "dateOfBirth" (CanonicalValue.ofJson? Date.ofJson?) = some a.dateOfBirth :=
    fields.required (by simp) (CanonicalValue.ofJson?_toJson Date.ofJson?_toJson legibleBirth)
  have gender : r.optional "gender" (CanonicalValue.ofJson? Gender.ofJson?) = some a.gender :=
    fields.optional_of_mem (by simp)
      (fun v given => CanonicalValue.ofJson?_toJson Gender.ofJson?_toJson (legibleGender v given))
      CanonicalValue.toJson_ne_null
  have addresses : r.required "addresses" (Json.list? CanonicalAddress.ofJson?) = some a.addresses :=
    fields.required (by simp)
      (Json.list?_map_of_mem fun x given => CanonicalAddress.ofJson?_toJson (legibleAddresses x given))
  simp only [ofJson?, toJson, record, Option.bind_eq_bind, Option.bind_some, firstName, middleNames,
    surnames, dateOfBirth, gender, addresses]
  rfl

theorem toJson_ne_null (a : CanonicalAttributes) : a.toJson ≠ .null := nofun

theorem regular_toJson (a : CanonicalAttributes) : a.toJson.Regular := by
  have name (v : CanonicalValue String) : (v.toJson .string).Regular :=
    v.regular_toJson Json.regular_string
  have genderName (g : Gender) : g.toJson.Regular := Json.regular_string g.name
  have day (x : Date) : x.toJson.Regular := Json.regular_string x.text
  have middleNames := Json.regular_member? "middleNames" a.middleNames name
  have gender := Json.regular_member? "gender" a.gender (CanonicalValue.regular_toJson genderName)
  rw [toJson, Json.regular_object]
  simp only [List.forall_mem_append, List.forall_mem_singleton, List.forall_mem_cons,
    Json.regular_array, List.forall_mem_map]
  exact ⟨⟨⟨⟨name _, middleNames⟩, fun v _ => name v, a.dateOfBirth.regular_toJson day⟩, gender⟩,
    fun x _ => x.regular_toJson⟩

end CanonicalAttributes
end RelyingParty
