import RelyingParty.Dataset.Json
import RelyingParty.Proofs.Assertion.Document

/-!
# Datasets read back

A validity stands among the members of the value that it belongs to. The reader sets it aside by the
names that are not the value's own, so it is found wherever it stands, and a dataset is read back from
the text of its document.
-/

namespace RelyingParty
set_option autoImplicit false
open Calendar

/-! ## Intervals among other members -/

namespace Json.InOrder

variable {ms : List (String × Json)} {names own : List String}

/-- Members with names of a value's own are none of the others. -/
theorem filter_of_own (order : InOrder ms names) (within : ∀ name ∈ names, own.contains name = true) :
    ms.filter (fun m => !own.contains m.1) = [] := by
  apply List.filter_eq_nil_iff.2
  intro m hm
  rw [within m.1 (order.name_mem m hm)]
  decide

theorem filter_of_others (order : InOrder ms names)
    (apart : ∀ name ∈ names, own.contains name = false) :
    ms.filter (fun m => !own.contains m.1) = ms := by
  apply List.filter_eq_self.2
  intro m hm
  rw [apart m.1 (order.name_mem m hm)]
  decide

end Json.InOrder

namespace Validity

/-- The ends that the interval has are legible. -/
def Legible (v : Validity) : Prop := ∀ t ∈ v.from?.toList ++ v.to?.toList, t.Legible

instance (v : Validity) : Decidable v.Legible :=
  inferInstanceAs (Decidable (∀ t ∈ v.from?.toList ++ v.to?.toList, t.Legible))

theorem inOrder_members (v : Validity) : Json.InOrder v.members ["from", "to"] :=
  (Json.inOrder_member? "from" Instant.toJson v.from?).append
    (Json.inOrder_member? "to" Instant.toJson v.to?)

theorem ofJson?_members {v : Validity} (legible : v.Legible) : ofJson? (.object v.members) = some v := by
  obtain ⟨legibleStart, legibleStop⟩ := List.forall_mem_append.1 legible
  obtain ⟨r, record, fields⟩ := Json.Record.ofJson?_object v.inOrder_members (by decide)
  have start : r.optional "from" Instant.ofJson? = some v.from? :=
    fields.optional_of_mem (by simp [members])
      (fun t given => Instant.ofJson?_toJson (legibleStart t given)) Instant.toJson_ne_null
  have stop : r.optional "to" Instant.ofJson? = some v.to? :=
    fields.optional_of_mem (by simp [members])
      (fun t given => Instant.ofJson?_toJson (legibleStop t given)) Instant.toJson_ne_null
  simp only [ofJson?, record, Option.bind_eq_bind, Option.bind_some, start, stop]
  rfl

theorem regular_members (v : Validity) : ∀ m ∈ v.members, m.2.Regular := by
  have start := Json.regular_member? "from" v.from? Instant.regular_toJson
  have stop := Json.regular_member? "to" v.to? Instant.regular_toJson
  rw [members, List.forall_mem_append]
  exact ⟨start, stop⟩

theorem fits_members (v : Validity) (room : Nat) : Json.membersFit room v.members = true := by
  have start := Json.fits_member? "from" v.from? (fun t => Json.fits_string room t.text)
  have stop := Json.fits_member? "to" v.to? (fun t => Json.fits_string room t.text)
  rw [Json.membersFit_iff, members, List.forall_mem_append]
  exact ⟨start, stop⟩

/-- An interval is found when its members are just those that the value does not own. -/
theorem withInterval?_object {own : List String} {ms : List (String × Json)} {v : Validity}
    (legible : v.Legible) (room : Nat) (others : ms.filter (fun m => !own.contains m.1) = v.members)
    (distinct : ((ms.map Prod.fst).filter (own.contains ·)).Nodup) :
    ∃ r, withInterval? room own (.object ms) = some (r, v) ∧ r.Lists ms := by
  refine ⟨⟨false, fun name => ms.lookup name⟩, ?_, rfl, fun _ => rfl⟩
  have record : Json.Record.ofMembers? own ms = some ⟨false, fun name => ms.lookup name⟩ :=
    if_pos distinct
  simp only [withInterval?, others, record, Option.bind_eq_bind, Option.bind_some,
    v.fits_members, if_true, ofJson?_members legible]
  rfl

end Validity

namespace Timed

variable {α : Type} {read : Json.Decoder α} {write : α → Json}

/-- The members of a timed value. -/
def members (write : α → Json) (t : Timed α) : List (String × Json) :=
  [("value", write t.value), ("verified", .bool t.verified)] ++ t.validity.members

theorem toJson_eq (t : Timed α) : t.toJson write = .object (t.members write) := rfl

theorem inOrder_members (t : Timed α) :
    Json.InOrder (t.members write) ["value", "verified", "from", "to"] :=
  ((Json.inOrder_single "value" (write t.value)).append
    (Json.inOrder_single "verified" (.bool t.verified))).append t.validity.inOrder_members

theorem ofJson?_toJson (back : ∀ a, read (write a) = some a) (room : Nat) {t : Timed α}
    (legible : t.validity.Legible) : ofJson? read room (t.toJson write) = some t := by
  have others : (t.members write).filter (fun m => !(["value", "verified"].contains m.1)) =
      t.validity.members := by
    have front : Json.InOrder [("value", write t.value), ("verified", .bool t.verified)]
        ["value", "verified"] := List.Sublist.refl _
    have rest := t.validity.inOrder_members
    rw [members, List.filter_append, front.filter_of_own (by decide), rest.filter_of_others (by decide),
      List.nil_append]
  have order : Json.InOrder (t.members write) ["value", "verified", "from", "to"] := t.inOrder_members
  have distinct := ((List.filter_sublist (p := (["value", "verified"].contains ·))).trans order).nodup
    (by decide)
  obtain ⟨r, record, fields⟩ := Validity.withInterval?_object legible room others distinct
  have value : r.required "value" read = some t.value :=
    fields.required (by simp [members]) (back t.value)
  have verified : r.required "verified" Json.bool? = some t.verified :=
    fields.required (by simp [members]) (Json.bool?_bool _)
  simp only [ofJson?, toJson_eq, record, Option.bind_eq_bind, Option.bind_some, value, verified]
  rfl

theorem toJson_ne_null (t : Timed α) : t.toJson write ≠ .null := nofun

theorem regular_toJson (regular : ∀ a, (write a).Regular) (t : Timed α) : (t.toJson write).Regular := by
  rw [toJson_eq, Json.regular_object]
  simp only [members, List.forall_mem_append, List.forall_mem_cons]
  exact ⟨⟨regular t.value, Json.regular_bool _, nofun⟩, t.validity.regular_members⟩

end Timed

/-! ## Datasets -/

theorem Calendar.Date.ofJson?_toJson (d : Date) : Date.ofJson? d.toJson = some d := by
  rw [Date.toJson, Date.ofJson?, Json.string?, Option.bind_some, Date.ofText?_text]

theorem Gender.ofJson?_toJson (g : Gender) : Gender.ofJson? g.toJson = some g := by
  cases g <;> exact Json.constant?_name _ (by decide)

namespace Address

/-- The names of the members of an address, apart from its interval. -/
def ownNames : List String :=
  ["verified", "post_code", "international_post_code", "uprn", "lines"]

/-- The members of an address. -/
def members (a : Address) : List (String × Json) :=
  [("verified", .bool a.verified)] ++ a.validity.members
    ++ (Json.member? "post_code" .string a.postCode
      ++ Json.member? "international_post_code" .string a.internationalPostCode
      ++ Json.member? "uprn" .string a.uprn
      ++ [("lines", Json.strings a.lines)])

theorem toJson_eq (a : Address) : a.toJson = .object a.members := by
  simp only [toJson, members, List.append_assoc]

theorem inOrder_members (a : Address) : Json.InOrder a.members
    ["verified", "from", "to", "post_code", "international_post_code", "uprn", "lines"] :=
  ((Json.inOrder_single "verified" (.bool a.verified)).append a.validity.inOrder_members).append
    ((((Json.inOrder_member? "post_code" .string a.postCode).append
      (Json.inOrder_member? "international_post_code" .string a.internationalPostCode)).append
      (Json.inOrder_member? "uprn" .string a.uprn)).append
      (Json.inOrder_single "lines" (Json.strings a.lines)))

theorem ofJson?_toJson (room : Nat) {a : Address} (legible : a.validity.Legible) :
    ofJson? room a.toJson = some a := by
  have others : a.members.filter (fun m => !ownNames.contains m.1) = a.validity.members := by
    have verified := Json.inOrder_single "verified" (.bool a.verified)
    have rest := (((Json.inOrder_member? "post_code" .string a.postCode).append
      (Json.inOrder_member? "international_post_code" .string a.internationalPostCode)).append
      (Json.inOrder_member? "uprn" .string a.uprn)).append
      (Json.inOrder_single "lines" (Json.strings a.lines))
    have interval := a.validity.inOrder_members
    rw [members, List.filter_append, List.filter_append, verified.filter_of_own (by decide),
      interval.filter_of_others (by decide), rest.filter_of_own (by decide), List.nil_append,
      List.append_nil]
  have distinct := ((List.filter_sublist (p := (ownNames.contains ·))).trans
    a.inOrder_members).nodup (by decide)
  obtain ⟨r, record, fields⟩ := Validity.withInterval?_object legible room others distinct
  have verified : r.required "verified" Json.bool? = some a.verified :=
    fields.required (by simp [members]) (Json.bool?_bool _)
  have postCode : r.optional "post_code" Json.string? = some a.postCode :=
    fields.optional (by simp [members, Validity.members]) Json.string?_string Json.string_ne_null
  have international :
      r.optional "international_post_code" Json.string? = some a.internationalPostCode :=
    fields.optional (by simp [members, Validity.members]) Json.string?_string Json.string_ne_null
  have uprn : r.optional "uprn" Json.string? = some a.uprn :=
    fields.optional (by simp [members, Validity.members]) Json.string?_string Json.string_ne_null
  have lines : r.withDefault "lines" (Json.list? Json.string?) [] = some a.lines :=
    fields.withDefault (by simp [members, Validity.members, Json.strings])
      (Json.list?_map Json.string?_string a.lines)
  rw [ownNames] at record
  simp only [ofJson?, toJson_eq, record, Option.bind_eq_bind, Option.bind_some, verified, postCode,
    international, uprn, lines]
  rfl

theorem regular_toJson (a : Address) : a.toJson.Regular := by
  have postCode := Json.regular_member? "post_code" a.postCode Json.regular_string
  have international :=
    Json.regular_member? "international_post_code" a.internationalPostCode Json.regular_string
  have uprn := Json.regular_member? "uprn" a.uprn Json.regular_string
  rw [toJson_eq, Json.regular_object]
  simp only [members, List.forall_mem_append, List.forall_mem_singleton]
  exact ⟨⟨Json.regular_bool _, a.validity.regular_members⟩, ⟨⟨postCode, international⟩, uprn⟩,
    Json.regular_strings _⟩

end Address

namespace IdentityDataset

/-- All instants in the dataset are legible. -/
def Legible (d : IdentityDataset) : Prop := ∀ v ∈ d.intervals, v.Legible

instance (d : IdentityDataset) : Decidable d.Legible :=
  inferInstanceAs (Decidable (∀ v ∈ d.intervals, v.Legible))

theorem ofJson?_toJson (room : Nat) {d : IdentityDataset} (legible : d.Legible) :
    ofJson? room d.toJson = some d := by
  simp only [Legible, intervals, List.forall_mem_append, List.forall_mem_cons, List.forall_mem_map] at legible
  obtain ⟨⟨⟨⟨legibleFirst, legibleMiddle⟩, legibleSurnames⟩, legibleGender⟩, legibleBirth,
    legibleAddresses⟩ := legible
  have last : Json.InOrder [("date_of_birth", d.dateOfBirth.toJson Date.toJson),
      ("addresses", .array (d.addresses.map Address.toJson))] ["date_of_birth", "addresses"] :=
    List.Sublist.refl _
  have order : Json.InOrder _
      ["first_name", "middle_names", "surnames", "gender", "date_of_birth", "addresses"] :=
    ((((Json.inOrder_single "first_name" (d.firstName.toJson .string)).append
      (Json.inOrder_member? "middle_names" (Timed.toJson .string) d.middleNames)).append
      (Json.inOrder_single "surnames" (.array (d.surnames.map (Timed.toJson .string))))).append
      (Json.inOrder_member? "gender" (Timed.toJson Gender.toJson) d.gender)).append last
  obtain ⟨r, record, fields⟩ := Json.Record.ofJson?_object order (by decide)
  have name (left : Nat) {t : Timed String} (legible : t.validity.Legible) :
      Timed.ofJson? Json.string? left (t.toJson .string) = some t :=
    Timed.ofJson?_toJson Json.string?_string left legible
  have firstName : r.required "first_name" (Timed.ofJson? Json.string? (room - 1)) = some d.firstName :=
    fields.required (by simp) (name _ legibleFirst)
  have middleNames :
      r.optional "middle_names" (Timed.ofJson? Json.string? (room - 1)) = some d.middleNames :=
    fields.optional_of_mem (by simp) (fun t given => name _ (legibleMiddle t given)) Timed.toJson_ne_null
  have surnames :
      r.withDefault "surnames" (Json.list? (Timed.ofJson? Json.string? (room - 2))) [] =
        some d.surnames :=
    fields.withDefault (by simp)
      (Json.list?_map_of_mem fun t given => name _ (legibleSurnames t given))
  have gender : r.optional "gender" (Timed.ofJson? Gender.ofJson? (room - 1)) = some d.gender :=
    fields.optional_of_mem (by simp)
      (fun t given => Timed.ofJson?_toJson Gender.ofJson?_toJson _ (legibleGender t given))
      Timed.toJson_ne_null
  have dateOfBirth :
      r.required "date_of_birth" (Timed.ofJson? Date.ofJson? (room - 1)) = some d.dateOfBirth :=
    fields.required (by simp) (Timed.ofJson?_toJson Date.ofJson?_toJson _ legibleBirth)
  have addresses :
      r.withDefault "addresses" (Json.list? (Address.ofJson? (room - 2))) [] = some d.addresses :=
    fields.withDefault (by simp)
      (Json.list?_map_of_mem fun a given => Address.ofJson?_toJson _ (legibleAddresses a given))
  simp only [ofJson?, toJson, record, Option.bind_eq_bind, Option.bind_some, firstName, middleNames,
    surnames, gender, dateOfBirth, addresses]
  rfl

theorem regular_toJson (d : IdentityDataset) : d.toJson.Regular := by
  have name (t : Timed String) : (t.toJson .string).Regular := t.regular_toJson Json.regular_string
  have genderName (g : Gender) : g.toJson.Regular := Json.regular_string g.name
  have day (x : Date) : x.toJson.Regular := Json.regular_string x.text
  have middleNames := Json.regular_member? "middle_names" d.middleNames name
  have gender := Json.regular_member? "gender" d.gender (Timed.regular_toJson genderName)
  rw [toJson, Json.regular_object]
  simp only [List.forall_mem_append, List.forall_mem_singleton, List.forall_mem_cons,
    Json.regular_array, List.forall_mem_map]
  exact ⟨⟨⟨⟨name _, middleNames⟩, fun t _ => name t⟩, gender⟩, d.dateOfBirth.regular_toJson day,
    fun x _ => x.regular_toJson⟩

/-- A dataset is read back from its text. -/
theorem ofText?_text {d : IdentityDataset} (legible : d.Legible) : ofText? d.text = some d := by
  have document : Json.ofText? d.text = some d.toJson := Json.ofText?_text d.toJson d.regular_toJson
  rw [ofText?, Json.decodeText?, document, Option.bind_some, ofJson?_toJson _ legible]

end IdentityDataset

/-- **Decoding undoes encoding.** Every assertion and every dataset with legible instants is read back from its
text as it was. -/
theorem documents_read_back :
    (∀ a : Assertion, a.Legible → Assertion.ofText? a.text = some a) ∧
      ∀ d : IdentityDataset, d.Legible → IdentityDataset.ofText? d.text = some d :=
  ⟨fun _ => Assertion.ofText?_text, fun _ => IdentityDataset.ofText?_text⟩

namespace Sample

/-- An assertion with a first name that was taken in the leap second at the end of 2016. -/
def renamed : Assertion :=
  { Assertion.empty with
    attributeStatement := some ⟨[⟨"MDS_firstname",
      [.personName ⟨"Ann", true, Instant.ofText? "2016-12-31T23:59:60.5Z", none⟩]⟩]⟩ }

/-- A dataset with that name. -/
def dataset : IdentityDataset where
  firstName := ⟨"Ann", true, ⟨Instant.ofText? "2016-12-31T23:59:60.5Z", none⟩⟩
  middleNames := none
  surnames := []
  gender := none
  dateOfBirth := .current ⟨31, by decide, by decide⟩ true
  addresses := [.ofLines [] false .unbounded]

end Sample

theorem documents_read_back_renamed :
    Sample.renamed.Legible ∧ Sample.dataset.Legible ∧
      Assertion.ofText? Sample.renamed.text = some Sample.renamed ∧
      IdentityDataset.ofText? Sample.dataset.text = some Sample.dataset := by
  obtain ⟨assertions, datasets⟩ := documents_read_back
  have legible : Sample.renamed.Legible := by decide
  have legible' : Sample.dataset.Legible := by decide
  exact ⟨legible, legible', assertions _ legible, datasets _ legible'⟩

end RelyingParty
