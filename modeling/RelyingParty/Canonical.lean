import RelyingParty.Dataset.Json

/-!
# Canonical attributes

The schema in which a dataset is handed on. Canonicalising moves every value across unchanged: flags,
intervals and order stay, and what was absent stays absent.
-/

namespace RelyingParty
set_option autoImplicit false
open Calendar

/-- A value with its verified flag and the ends of its validity. -/
structure CanonicalValue (α : Type) where
  value : α
  verified : Bool
  from? : Option Instant
  to? : Option Instant
deriving DecidableEq

/-- An address with its verified flag and the ends of its validity. -/
structure CanonicalAddress where
  verified : Bool
  from? : Option Instant
  to? : Option Instant
  postCode : Option String
  internationalPostCode : Option String
  uprn : Option String
  lines : List String
deriving DecidableEq

/-- The attributes of a subject. -/
structure CanonicalAttributes where
  firstName : CanonicalValue String
  middleNames : Option (CanonicalValue String)
  surnames : List (CanonicalValue String)
  dateOfBirth : CanonicalValue Date
  gender : Option (CanonicalValue Gender)
  addresses : List CanonicalAddress
deriving DecidableEq

/-- A timed value in the canonical schema. -/
def Timed.canonical {α : Type} (t : Timed α) : CanonicalValue α :=
  ⟨t.value, t.verified, t.validity.from?, t.validity.to?⟩

/-- An address in the canonical schema. -/
def Address.canonical (a : Address) : CanonicalAddress :=
  ⟨a.verified, a.validity.from?, a.validity.to?, a.postCode, a.internationalPostCode, a.uprn, a.lines⟩

/-- A dataset in the canonical schema. -/
def IdentityDataset.canonical (d : IdentityDataset) : CanonicalAttributes where
  firstName := d.firstName.canonical
  middleNames := d.middleNames.map Timed.canonical
  surnames := d.surnames.map Timed.canonical
  dateOfBirth := d.dateOfBirth.canonical
  gender := d.gender.map Timed.canonical
  addresses := d.addresses.map Address.canonical

/-- The intervals of canonical attributes, in the order of the fields of a dataset. -/
def CanonicalAttributes.intervals (a : CanonicalAttributes) : List Validity :=
  let interval {α : Type} (v : CanonicalValue α) : Validity := ⟨v.from?, v.to?⟩
  interval a.firstName :: a.middleNames.toList.map interval ++ a.surnames.map interval
    ++ a.gender.toList.map interval ++ interval a.dateOfBirth :: a.addresses.map fun x => ⟨x.from?, x.to?⟩

namespace CanonicalValue

variable {α : Type}

/-- A value in a document. -/
def toJson (write : α → Json) (v : CanonicalValue α) : Json :=
  .object ([("value", write v.value), ("verified", .bool v.verified)]
    ++ Json.member? "from" Instant.toJson v.from?
    ++ Json.member? "to" Instant.toJson v.to?)

/-- The value that a document holds. -/
def ofJson? (read : Json.Decoder α) : Json.Decoder (CanonicalValue α) := fun json => do
  let r ← Json.Record.ofJson? ["value", "verified", "from", "to"] json
  return {
    value := ← r.required "value" read
    verified := ← r.required "verified" Json.bool?
    from? := ← r.optional "from" Instant.ofJson?
    to? := ← r.optional "to" Instant.ofJson? }

end CanonicalValue

namespace CanonicalAddress

/-- An address in a document. -/
def toJson (a : CanonicalAddress) : Json :=
  .object ([("verified", .bool a.verified)]
    ++ Json.member? "from" Instant.toJson a.from?
    ++ Json.member? "to" Instant.toJson a.to?
    ++ Json.member? "postCode" .string a.postCode
    ++ Json.member? "internationalPostCode" .string a.internationalPostCode
    ++ Json.member? "uprn" .string a.uprn
    ++ [("lines", Json.strings a.lines)])

/-- The address that a document holds. -/
def ofJson? : Json.Decoder CanonicalAddress := fun json => do
  let r ← Json.Record.ofJson?
    ["verified", "from", "to", "postCode", "internationalPostCode", "uprn", "lines"] json
  return {
    verified := ← r.required "verified" Json.bool?
    from? := ← r.optional "from" Instant.ofJson?
    to? := ← r.optional "to" Instant.ofJson?
    postCode := ← r.optional "postCode" Json.string?
    internationalPostCode := ← r.optional "internationalPostCode" Json.string?
    uprn := ← r.optional "uprn" Json.string?
    lines := ← r.required "lines" (Json.list? Json.string?) }

end CanonicalAddress

namespace CanonicalAttributes

/-- Attributes in a document. -/
def toJson (a : CanonicalAttributes) : Json :=
  .object ([("firstName", a.firstName.toJson .string)]
    ++ Json.member? "middleNames" (CanonicalValue.toJson .string) a.middleNames
    ++ [("surnames", .array (a.surnames.map (CanonicalValue.toJson .string))),
        ("dateOfBirth", a.dateOfBirth.toJson Date.toJson)]
    ++ Json.member? "gender" (CanonicalValue.toJson Gender.toJson) a.gender
    ++ [("addresses", .array (a.addresses.map CanonicalAddress.toJson))])

/-- The attributes that a document holds. -/
def ofJson? : Json.Decoder CanonicalAttributes := fun json => do
  let r ← Json.Record.ofJson?
    ["firstName", "middleNames", "surnames", "dateOfBirth", "gender", "addresses"] json
  let name := CanonicalValue.ofJson? Json.string?
  return {
    firstName := ← r.required "firstName" name
    middleNames := ← r.optional "middleNames" name
    surnames := ← r.required "surnames" (Json.list? name)
    dateOfBirth := ← r.required "dateOfBirth" (CanonicalValue.ofJson? Date.ofJson?)
    gender := ← r.optional "gender" (CanonicalValue.ofJson? Gender.ofJson?)
    addresses := ← r.required "addresses" (Json.list? CanonicalAddress.ofJson?) }

end CanonicalAttributes
end RelyingParty
