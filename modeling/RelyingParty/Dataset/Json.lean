import RelyingParty.Assertion.Json
import RelyingParty.Dataset.Basic

/-!
# Datasets as documents

A validity is written among the members of the value that it belongs to. Such a value is read from an
object only, and all of its members that are not its own are set aside until the ends of the interval
are looked for. Reading an interval does not compare its ends.
-/

namespace RelyingParty
set_option autoImplicit false
open Calendar

namespace Validity

/-- The members of an interval. -/
def members (v : Validity) : List (String × Json) :=
  Json.member? "from" Instant.toJson v.from? ++ Json.member? "to" Instant.toJson v.to?

/-- An interval in a document. -/
def toJson (v : Validity) : Json := .object v.members

/-- The interval that a document holds. -/
def ofJson? : Json.Decoder Validity := fun json => do
  let r ← Json.Record.ofJson? ["from", "to"] json
  return {
    from? := ← r.optional "from" Instant.ofJson?
    to? := ← r.optional "to" Instant.ofJson? }

end Validity

/-- The record of the members with the names `own` and the interval among the others, which have to
fit in the room left for nesting. -/
def withInterval? (room : Nat) (own : List String) : Json.Decoder (Json.Record × Validity)
  | .object members => do
    let others := members.filter fun m => !own.contains m.1
    let r ← Json.Record.ofMembers? own members
    if Json.membersFit (room - 1) others then return (r, ← Validity.ofJson? (.object others))
    else none
  | _ => none

namespace Timed

variable {α : Type}

/-- A timed value in a document. -/
def toJson (write : α → Json) (t : Timed α) : Json :=
  .object ([("value", write t.value), ("verified", .bool t.verified)] ++ t.validity.members)

/-- The timed value that a document holds. -/
def ofJson? (read : Json.Decoder α) (room : Nat) : Json.Decoder (Timed α) := fun json => do
  let (r, validity) ← withInterval? room ["value", "verified"] json
  return {
    value := ← r.required "value" read
    verified := ← r.required "verified" Json.bool?
    validity }

end Timed

namespace Gender

/-- A gender in a document. -/
def toJson (g : Gender) : Json := .string g.name

/-- The gender that a document holds. -/
def ofJson? : Json.Decoder Gender := Json.constant? name all

end Gender

namespace Address

/-- An address in a document. -/
def toJson (a : Address) : Json :=
  .object ([("verified", .bool a.verified)] ++ a.validity.members
    ++ Json.member? "post_code" .string a.postCode
    ++ Json.member? "international_post_code" .string a.internationalPostCode
    ++ Json.member? "uprn" .string a.uprn
    ++ [("lines", Json.strings a.lines)])

/-- The address that a document holds. -/
def ofJson? (room : Nat) : Json.Decoder Address := fun json => do
  let (r, validity) ←
    withInterval? room ["verified", "post_code", "international_post_code", "uprn", "lines"] json
  return {
    verified := ← r.required "verified" Json.bool?
    validity
    postCode := ← r.optional "post_code" Json.string?
    internationalPostCode := ← r.optional "international_post_code" Json.string?
    uprn := ← r.optional "uprn" Json.string?
    lines := ← r.withDefault "lines" (Json.list? Json.string?) [] }

end Address

namespace IdentityDataset

/-- A dataset in a document. -/
def toJson (d : IdentityDataset) : Json :=
  .object ([("first_name", d.firstName.toJson .string)]
    ++ Json.member? "middle_names" (Timed.toJson .string) d.middleNames
    ++ [("surnames", .array (d.surnames.map (Timed.toJson .string)))]
    ++ Json.member? "gender" (Timed.toJson Gender.toJson) d.gender
    ++ [("date_of_birth", d.dateOfBirth.toJson Date.toJson),
        ("addresses", .array (d.addresses.map Address.toJson))])

/-- The dataset that a document holds. -/
def ofJson? (room : Nat) : Json.Decoder IdentityDataset := fun json => do
  let r ← Json.Record.ofJson?
    ["first_name", "middle_names", "surnames", "gender", "date_of_birth", "addresses"] json
  let name := Timed.ofJson? Json.string?
  return {
    firstName := ← r.required "first_name" (name (room - 1))
    middleNames := ← r.optional "middle_names" (name (room - 1))
    surnames := ← r.withDefault "surnames" (Json.list? (name (room - 2))) []
    gender := ← r.optional "gender" (Timed.ofJson? Gender.ofJson? (room - 1))
    dateOfBirth := ← r.required "date_of_birth" (Timed.ofJson? Date.ofJson? (room - 1))
    addresses := ← r.withDefault "addresses" (Json.list? (Address.ofJson? (room - 2))) [] }

/-- The text of a dataset's document. -/
def text (d : IdentityDataset) : String := d.toJson.text

/-- The dataset that the text of a document holds. -/
def ofText? : String → Option IdentityDataset := Json.decodeText? (ofJson? Json.maxNesting)

end IdentityDataset
end RelyingParty
