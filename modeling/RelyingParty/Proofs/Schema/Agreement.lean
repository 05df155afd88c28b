import Mathlib.Data.List.Perm.Basic
import RelyingParty.Canonical
import RelyingParty.Proofs.Schema.Check
import RelyingParty.Proofs.Schema.Gather

/-!
# Checking and extraction agree

Attributes that the check accepts can be extracted, and every value of theirs comes out once, in the
canonical schema, with nothing else. As no two of them share a name, their order does not matter.
-/

namespace RelyingParty.Schema
set_option autoImplicit false
open Calendar

/-- A name value has the parts of a canonical name. -/
def NameOf (v : AttributeValue) (c : CanonicalValue String) : Prop :=
  v = .personName ⟨c.value, c.verified, c.from?, c.to?⟩

/-- A gender value has the parts of a canonical gender, which its text names. -/
def GenderOf (v : AttributeValue) (c : CanonicalValue Gender) : Prop :=
  ∃ raw, v = .gender ⟨raw, c.verified, c.from?, c.to?⟩ ∧ Gender.ofName? raw = some c.value

/-- A date value has the parts of a canonical date, which its text stands for. -/
def DateOf (v : AttributeValue) (c : CanonicalValue Date) : Prop :=
  ∃ raw, v = .date ⟨raw, c.verified, c.from?, c.to?⟩ ∧ Date.ofCompactText? raw = some c.value

/-- An address value has the parts of a canonical address. -/
def AddressOf (v : AttributeValue) (c : CanonicalAddress) : Prop :=
  v = .address ⟨c.lines, c.postCode, c.internationalPostCode, c.uprn, c.verified, c.from?, c.to?⟩

/-- The attributes of the dataset. -/
def datasetFields : List Field :=
  [.firstName, .middleName, .surname, .gender, .dateOfBirth, .currentAddress, .previousAddress]

theorem mem_datasetFields {f : Field} (allowed : f.allowedOn = .identity) : f ∈ datasetFields := by
  cases f <;> first | decide | cases allowed

/-- The values of some attributes, each once and in order, are what canonical attributes hold. -/
structure Released (attributes : List Attribute) (c : CanonicalAttributes) : Prop where
  firstName : List.Forall₂ NameOf (valuesOf .firstName attributes) [c.firstName]
  middleNames : List.Forall₂ NameOf (valuesOf .middleName attributes) c.middleNames.toList
  surnames : List.Forall₂ NameOf (valuesOf .surname attributes) c.surnames
  dateOfBirth : List.Forall₂ DateOf (valuesOf .dateOfBirth attributes) [c.dateOfBirth]
  gender : List.Forall₂ GenderOf (valuesOf .gender attributes) c.gender.toList
  addresses : List.Forall₂ AddressOf
    (valuesOf .currentAddress attributes ++ valuesOf .previousAddress attributes) c.addresses
  noMiddleNames : c.middleNames = none ↔ ∀ a ∈ attributes, a.name ≠ Field.middleName.name
  noGender : c.gender = none ↔ ∀ a ∈ attributes, a.name ≠ Field.gender.name
  nothingElse :
    (datasetFields.flatMap fun f => valuesOf f attributes).Perm (attributes.flatMap Attribute.values)

/-! ## Reading values -/

theorem personName_eq_ok_iff {f : Field} {v : AttributeValue} {t : Timed String} :
    personName f v = .ok t ↔ Sound v ∧ NameOf v t.canonical := by
  cases v with
  | personName p =>
    simp only [personName, bind_eq_ok_iff, interval_eq_ok_iff, Sound, NameOf]
    constructor
    · rintro ⟨_, ⟨ordered, rfl⟩, answer⟩
      obtain rfl := Except.ok.inj answer
      exact ⟨ordered, rfl⟩
    · rintro ⟨ordered, same⟩
      obtain rfl := AttributeValue.personName.inj same
      exact ⟨_, ⟨ordered, rfl⟩, rfl⟩
  | _ => simp [personName, NameOf]

theorem gender_eq_ok_iff {f : Field} {v : AttributeValue} {t : Timed Gender} :
    gender f v = .ok t ↔ Sound v ∧ GenderOf v t.canonical := by
  cases v with
  | gender g =>
    simp only [gender, bind_eq_ok_iff, genderOf_eq_ok_iff, interval_eq_ok_iff, Sound, GenderOf]
    constructor
    · rintro ⟨x, named, _, ⟨ordered, rfl⟩, answer⟩
      obtain rfl := Except.ok.inj answer
      exact ⟨⟨ordered, x, named⟩, g.value, rfl, named⟩
    · rintro ⟨⟨ordered, _⟩, _, same, named⟩
      obtain rfl := AttributeValue.gender.inj same
      exact ⟨t.value, named, _, ⟨ordered, rfl⟩, rfl⟩
  | _ => simp [gender, GenderOf]

theorem date_eq_ok_iff {f : Field} {v : AttributeValue} {t : Timed Date} :
    date f v = .ok t ↔ Sound v ∧ DateOf v t.canonical := by
  cases v with
  | date d =>
    simp only [date, bind_eq_ok_iff, dateOf_eq_ok_iff, interval_eq_ok_iff, Sound, DateOf]
    constructor
    · rintro ⟨x, read, _, ⟨ordered, rfl⟩, answer⟩
      obtain rfl := Except.ok.inj answer
      exact ⟨⟨ordered, x, read⟩, d.value, rfl, read⟩
    · rintro ⟨⟨ordered, _⟩, _, same, read⟩
      obtain rfl := AttributeValue.date.inj same
      exact ⟨t.value, read, _, ⟨ordered, rfl⟩, rfl⟩
  | _ => simp [date, DateOf]

theorem address_eq_ok_iff {f : Field} {v : AttributeValue} {d : Address} :
    address f v = .ok d ↔ Sound v ∧ AddressOf v d.canonical := by
  cases v with
  | address a =>
    simp only [address, bind_eq_ok_iff, interval_eq_ok_iff, Sound, AddressOf]
    constructor
    · rintro ⟨_, ⟨ordered, rfl⟩, answer⟩
      obtain rfl := Except.ok.inj answer
      exact ⟨ordered, rfl⟩
    · rintro ⟨ordered, same⟩
      obtain rfl := AttributeValue.address.inj same
      exact ⟨_, ⟨ordered, rfl⟩, rfl⟩
  | _ => simp [address, AddressOf]

/-- A good value of an attribute with names can be read as a name, and so for the other kinds. -/
theorem exists_personName {f : Field} {v : AttributeValue} (kind : f.kind = .personName)
    (good : Good f v) :
    ∃ t, personName f v = .ok t := by
  obtain ⟨same, sound⟩ := good
  rw [kind] at same
  cases v with
  | personName p => exact ⟨⟨p.value, p.verified, ⟨p.from?, p.to?⟩⟩, personName_eq_ok_iff.2 ⟨sound, rfl⟩⟩
  | _ => cases same

theorem exists_gender {f : Field} {v : AttributeValue} (kind : f.kind = .gender) (good : Good f v) :
    ∃ t, gender f v = .ok t := by
  obtain ⟨same, sound⟩ := good
  rw [kind] at same
  cases v with
  | gender g =>
    obtain ⟨x, named⟩ := sound.2
    exact ⟨⟨x, g.verified, ⟨g.from?, g.to?⟩⟩, gender_eq_ok_iff.2 ⟨sound, g.value, rfl, named⟩⟩
  | _ => cases same

theorem exists_date {f : Field} {v : AttributeValue} (kind : f.kind = .date) (good : Good f v) :
    ∃ t, date f v = .ok t := by
  obtain ⟨same, sound⟩ := good
  rw [kind] at same
  cases v with
  | date d =>
    obtain ⟨x, read⟩ := sound.2
    exact ⟨⟨x, d.verified, ⟨d.from?, d.to?⟩⟩, date_eq_ok_iff.2 ⟨sound, d.value, rfl, read⟩⟩
  | _ => cases same

theorem exists_address {f : Field} {v : AttributeValue} (kind : f.kind = .address) (good : Good f v) :
    ∃ d, address f v = .ok d := by
  obtain ⟨same, sound⟩ := good
  rw [kind] at same
  cases v with
  | address a =>
    exact ⟨⟨a.verified, ⟨a.from?, a.to?⟩, a.postCode, a.internationalPostCode, a.uprn, a.lines⟩,
      address_eq_ok_iff.2 ⟨sound, rfl⟩⟩
  | _ => cases same

/-! ## The values of one attribute -/

section Distinct

variable {attributes : List Attribute} (distinct : (attributes.map Attribute.name).Nodup)
include distinct

/-- No two attributes share a name, so at most one has a given name. -/
theorem named_length_le_one (f : Field) : (named f attributes).length ≤ 1 := by
  have all_named : ∀ name ∈ (named f attributes).map Attribute.name, name = f.name := by
    intro name present
    obtain ⟨a, chosen, rfl⟩ := List.mem_map.1 present
    exact eq_of_beq (List.mem_filter.1 chosen).2
  have apart : ((named f attributes).map Attribute.name).Nodup :=
    distinct.sublist (List.filter_sublist.map _)
  rw [List.eq_replicate_of_mem all_named, List.nodup_replicate, List.length_map] at apart
  exact apart

theorem named_perm {others : List Attribute} (order : others.Perm attributes) (f : Field) :
    named f others = named f attributes := by
  have same : (named f others).Perm (named f attributes) := order.filter _
  have few := named_length_le_one distinct f
  cases chosen : named f attributes with
  | nil => exact List.perm_nil.1 (chosen ▸ same)
  | cons a rest =>
    rw [chosen, List.length_cons] at few
    obtain rfl := List.eq_nil_of_length_eq_zero (Nat.le_zero.1 (Nat.le_of_succ_le_succ few))
    exact List.perm_singleton.1 (chosen ▸ same)

end Distinct

section Fitting

variable {role : AssertionRole} {attributes : List Attribute} {f : Field}
  (fits : ∀ a ∈ attributes, ∃ g, Fits role a g)
include fits

theorem fits_of_mem_named {a : Attribute} (chosen : a ∈ named f attributes) : Fits role a f := by
  obtain ⟨present, same⟩ := List.mem_filter.1 chosen
  obtain ⟨g, fit⟩ := fits a present
  obtain rfl := Field.name_injective (fit.name.trans (eq_of_beq same))
  exact fit

theorem good_of_mem_valuesOf {v : AttributeValue} (present : v ∈ valuesOf f attributes) : Good f v := by
  obtain ⟨a, chosen, held⟩ := List.mem_flatMap.1 present
  exact (fits_of_mem_named fits chosen).good v held

theorem firstsOf_eq_valuesOf (single : f.singleValued = true) :
    firstsOf f attributes = valuesOf f attributes := by
  have only : ∀ a ∈ named f attributes, a.values.head?.toList = a.values := by
    intro a chosen
    obtain ⟨v, holds⟩ := List.length_eq_one_iff.1 ((fits_of_mem_named fits chosen).single single)
    rw [holds]
    rfl
  rw [firstsOf, List.filterMap_eq_flatMap_toList, valuesOf]
  exact List.flatMap_congr only

theorem valuesOf_length_le_one (distinct : (attributes.map Attribute.name).Nodup)
    (single : f.singleValued = true) : (valuesOf f attributes).length ≤ 1 := by
  have few := named_length_le_one distinct f
  have length_le : ∀ a ∈ named f attributes, a.values.length = 1 :=
    fun a chosen => (fits_of_mem_named fits chosen).single single
  rw [valuesOf, List.length_flatMap, List.map_congr_left length_le]
  simpa using few

theorem valuesOf_eq_nil_iff :
    valuesOf f attributes = [] ↔ ∀ a ∈ attributes, a.name ≠ f.name := by
  rw [valuesOf, List.flatMap_eq_nil_iff]
  constructor
  · intro empty a present same
    have chosen : a ∈ named f attributes := List.mem_filter.2 ⟨present, beq_iff_eq.2 same⟩
    exact (fits_of_mem_named fits chosen).nonempty (empty a chosen)
  · intro absent a chosen
    obtain ⟨present, same⟩ := List.mem_filter.1 chosen
    exact absurd (eq_of_beq same) (absent a present)

variable {α β : Type} {read : AttributeValue → Except AttributeError α}

theorem exists_extends (reads : ∀ v, Good f v → ∃ t, read v = .ok t) :
    ∃ ts, Extends read (valuesOf f attributes) [] ts ∧
      List.Forall₂ (fun v t => read v = .ok t) (valuesOf f attributes) ts := by
  obtain ⟨ts, each⟩ := exists_forall₂_iff.2 fun v present => reads v (good_of_mem_valuesOf fits present)
  exact ⟨ts, ⟨ts, mapM_eq_ok_iff.2 each, rfl⟩, each⟩

theorem exists_replaces (distinct : (attributes.map Attribute.name).Nodup)
    (single : f.singleValued = true) (reads : ∀ v, Good f v → ∃ t, read v = .ok t) :
    ∃ t : Option α, Replaces read (firstsOf f attributes) none t ∧
      List.Forall₂ (fun v t => read v = .ok t) (valuesOf f attributes) t.toList := by
  obtain ⟨ts, -, each⟩ := exists_extends fits reads
  have few := valuesOf_length_le_one fits distinct single
  rw [each.length_eq] at few
  have all : ts.getLast?.toList = ts := by
    cases ts with
    | nil => rfl
    | cons t rest =>
      obtain rfl := List.eq_nil_of_length_eq_zero (Nat.le_zero.1 (Nat.le_of_succ_le_succ few))
      rfl
  refine ⟨ts.getLast?, ⟨ts, ?_, Option.or_none⟩, all.symm ▸ each⟩
  rw [firstsOf_eq_valuesOf fits single]
  exact mapM_eq_ok_iff.2 each

theorem eq_none_iff_absent {R : AttributeValue → β → Prop} {t : Option β}
    (each : List.Forall₂ R (valuesOf f attributes) t.toList) :
    t = none ↔ ∀ a ∈ attributes, a.name ≠ f.name := by
  rw [← valuesOf_eq_nil_iff fits]
  constructor
  · rintro rfl
    exact List.forall₂_nil_right_iff.1 each
  · intro empty
    rw [empty] at each
    exact Option.toList_eq_nil_iff.1 (List.forall₂_nil_left_iff.1 each)

theorem exists_of_required {R : AttributeValue → β → Prop} {t : Option β}
    (each : List.Forall₂ R (valuesOf f attributes) t.toList)
    (required : ∃ a ∈ attributes, a.name = f.name) : ∃ x, t = some x := by
  obtain ⟨a, present, same⟩ := required
  apply Option.ne_none_iff_exists'.1
  intro absent
  exact (eq_none_iff_absent fits each).1 absent a present same

end Fitting

/-- Sorting the values by the names of their attributes loses none, when all names are the dataset's. -/
theorem flatMap_valuesOf_perm {attributes : List Attribute}
    (known : ∀ a ∈ attributes, ∃ g ∈ datasetFields, g.name = a.name) :
    (datasetFields.flatMap fun g => valuesOf g attributes).Perm (attributes.flatMap Attribute.values) := by
  induction attributes with
  | nil => exact List.Perm.refl _
  | cons a rest ih =>
    rw [List.forall_mem_cons] at known
    obtain ⟨⟨g, member, same⟩, others⟩ := known
    have first : (datasetFields.flatMap fun h => valuesOf h [a]) = a.values := by
      simp only [valuesOf_single, Field.ofName?_eq_some_iff.2 same]
      cases g <;> first | exact List.append_nil _ | exact absurd member (by decide)
    have split (h : Field) : valuesOf h (a :: rest) = valuesOf h [a] ++ valuesOf h rest :=
      valuesOf_append h [a] rest
    simp only [split, List.flatMap_cons]
    refine (List.flatMap_append_perm datasetFields _ _).symm.trans ?_
    rw [first]
    exact (ih others).append_left a.values

/-- What is written of read values has the parts that reading them gave. -/
theorem forall₂_write {α β : Type} {read : AttributeValue → Except AttributeError α}
    {parts : AttributeValue → β → Prop} {write : α → β}
    (faithful : ∀ v t, read v = .ok t → parts v (write t))
    {values : List AttributeValue} {ts : List α}
    (each : List.Forall₂ (fun v t => read v = .ok t) values ts) :
    List.Forall₂ parts values (ts.map write) :=
  List.forall₂_map_right_iff.2 (each.imp faithful)

/-- What was gathered is what the values of some attributes are read as, each once and in order. -/
structure ReadFrom (attributes : List Attribute) (g : Gathered) : Prop where
  firstName : List.Forall₂ (fun v t => personName .firstName v = .ok t)
    (valuesOf .firstName attributes) g.firstName.toList
  middleNames : List.Forall₂ (fun v t => personName .middleName v = .ok t)
    (valuesOf .middleName attributes) g.middleNames.toList
  surnames : List.Forall₂ (fun v t => personName .surname v = .ok t)
    (valuesOf .surname attributes) g.surnames
  gender : List.Forall₂ (fun v t => Schema.gender .gender v = .ok t)
    (valuesOf .gender attributes) g.gender.toList
  dateOfBirth : List.Forall₂ (fun v t => date .dateOfBirth v = .ok t)
    (valuesOf .dateOfBirth attributes) g.dateOfBirth.toList
  currentAddresses : List.Forall₂ (fun v d => address .currentAddress v = .ok d)
    (valuesOf .currentAddress attributes) g.currentAddresses
  previousAddresses : List.Forall₂ (fun v d => address .previousAddress v = .ok d)
    (valuesOf .previousAddress attributes) g.previousAddresses

/-- Attributes that fit, of different names, are gathered with all their values. -/
theorem exists_gathered {role : AssertionRole} {attributes : List Attribute}
    (fits : ∀ a ∈ attributes, ∃ g, Fits role a g)
    (distinct : (attributes.map Attribute.name).Nodup) :
    ∃ g, Gathers .nothing attributes g ∧ ReadFrom attributes g := by
  obtain ⟨firstName, gatherFirst, eachFirst⟩ := exists_replaces (f := .firstName) fits distinct rfl
    fun _ => exists_personName rfl
  obtain ⟨middleNames, gatherMiddle, eachMiddle⟩ := exists_replaces (f := .middleName) fits distinct rfl
    fun _ => exists_personName rfl
  obtain ⟨surnames, gatherSurnames, eachSurname⟩ := exists_extends (f := .surname) fits
    fun _ => exists_personName rfl
  obtain ⟨gender, gatherGender, eachGender⟩ := exists_replaces (f := .gender) fits distinct rfl
    fun _ => exists_gender rfl
  obtain ⟨birth, gatherBirth, eachBirth⟩ := exists_replaces (f := .dateOfBirth) fits distinct rfl
    fun _ => exists_date rfl
  obtain ⟨current, gatherCurrent, eachCurrent⟩ := exists_extends (f := .currentAddress) fits
    fun _ => exists_address rfl
  obtain ⟨previous, gatherPrevious, eachPrevious⟩ := exists_extends (f := .previousAddress) fits
    fun _ => exists_address rfl
  refine ⟨⟨firstName, middleNames, surnames, gender, birth, current, previous⟩, ?_, ?_⟩
  · exact ⟨gatherFirst, gatherMiddle, gatherSurnames, gatherGender, gatherBirth, gatherCurrent,
      gatherPrevious⟩
  · exact ⟨eachFirst, eachMiddle, eachSurname, eachGender, eachBirth, eachCurrent, eachPrevious⟩

/-- What is written of the gathered values holds them as the attributes do. -/
theorem released_of_readFrom {attributes : List Attribute}
    (fits : ∀ a ∈ attributes, ∃ g, Fits .identity a g) {g : Gathered} (read : ReadFrom attributes g)
    {first : Timed String} {birth : Timed Date} (firstName : g.firstName = some first)
    (dateOfBirth : g.dateOfBirth = some birth) :
    Released attributes (IdentityDataset.canonical ⟨first, g.middleNames, g.surnames, g.gender, birth,
      g.currentAddresses ++ g.previousAddresses⟩) := by
  have name (f : Field) (v : AttributeValue) (t : Timed String) (h : personName f v = .ok t) :
      NameOf v t.canonical := (personName_eq_ok_iff.1 h).2
  have postal (f : Field) (v : AttributeValue) (d : Address) (h : address f v = .ok d) :
      AddressOf v d.canonical := (address_eq_ok_iff.1 h).2
  have readFirst := read.firstName
  rw [firstName] at readFirst
  have readBirth := read.dateOfBirth
  rw [dateOfBirth] at readBirth
  have writtenMiddle : List.Forall₂ NameOf (valuesOf .middleName attributes)
      (g.middleNames.map Timed.canonical).toList := by
    rw [Option.toList_map]
    exact forall₂_write (name _) read.middleNames
  have writtenGender : List.Forall₂ GenderOf (valuesOf .gender attributes)
      (g.gender.map Timed.canonical).toList := by
    rw [Option.toList_map]
    exact forall₂_write (fun v t h => (gender_eq_ok_iff.1 h).2) read.gender
  have writtenAddresses : List.Forall₂ AddressOf
      (valuesOf .currentAddress attributes ++ valuesOf .previousAddress attributes)
      ((g.currentAddresses ++ g.previousAddresses).map Address.canonical) := by
    rw [List.map_append]
    apply List.rel_append
    · exact forall₂_write (postal _) read.currentAddresses
    · exact forall₂_write (postal _) read.previousAddresses
  constructor
  · exact forall₂_write (name _) readFirst
  · exact writtenMiddle
  · exact forall₂_write (name _) read.surnames
  · exact forall₂_write (fun v t h => (date_eq_ok_iff.1 h).2) readBirth
  · exact writtenGender
  · exact writtenAddresses
  · exact eq_none_iff_absent fits writtenMiddle
  · exact eq_none_iff_absent fits writtenGender
  · apply flatMap_valuesOf_perm
    intro x present
    obtain ⟨f, fit⟩ := fits x present
    exact ⟨f, mem_datasetFields fit.allowed, fit.name⟩

/-- An identity assertion that follows the schema can be extracted, with all its values. -/
theorem exists_extract {a : Assertion} (role : a.role = .identity) (conforms : Conforms a) :
    ∃ d, extract a = .ok d ∧ Released a.attributes d.canonical := by
  obtain ⟨-, distinct, fits, required⟩ := conforms
  rw [role] at fits
  obtain ⟨g, gathers, read⟩ := exists_gathered fits distinct
  obtain ⟨first, firstName⟩ :=
    exists_of_required fits read.firstName (required role .firstName (by decide))
  obtain ⟨birth, dateOfBirth⟩ :=
    exists_of_required fits read.dateOfBirth (required role .dateOfBirth (by decide))
  have dataset := dataset_eq_ok_iff.2 ⟨first, birth, firstName, dateOfBirth, rfl⟩
  have extracted := extract_eq_ok_iff.2 ⟨g, gathers, dataset⟩
  exact ⟨_, extracted, released_of_readFrom fits read firstName dateOfBirth⟩

/-- The assertion with other attributes. -/
def withAttributes (a : Assertion) (attributes : List Attribute) : Assertion :=
  { a with attributeStatement := some ⟨attributes⟩ }

theorem Conforms.withAttributes {a : Assertion} (conforms : Conforms a) {others : List Attribute}
    (order : others.Perm a.attributes) : Conforms (withAttributes a others) := by
  obtain ⟨-, distinct, fits, required⟩ := conforms
  refine ⟨fun _ => Option.some_ne_none _, ?_, fun x present => fits x (order.subset present), ?_⟩
  · exact (order.map Attribute.name).nodup_iff.2 distinct
  · intro role f needed
    obtain ⟨x, present, same⟩ := required role f needed
    exact ⟨x, order.symm.subset present, same⟩

theorem extract_withAttributes {a : Assertion} (conforms : Conforms a) {others : List Attribute}
    (order : others.Perm a.attributes) {d : IdentityDataset} (extracted : extract a = .ok d) :
    extract (withAttributes a others) = .ok d := by
  obtain ⟨g, gathered, dataset⟩ := extract_eq_ok_iff.1 extracted
  have same := named_perm conforms.distinct order
  have gathers : Gathers .nothing others g := by
    rw [gathers_iff] at gathered ⊢
    simp only [firstsOf, valuesOf, same] at gathered ⊢
    exact gathered
  exact extract_eq_ok_iff.2 ⟨g, gathers, dataset⟩

/-- **Checking and extraction agree.** The attributes of an identity assertion that the check accepts
can be extracted, and the canonical attributes hold exactly their values, wherever they stand. -/
theorem extract_of_check {a : Assertion} (role : a.role = .identity) (checked : check a = .ok ()) :
    ∃ d, extract a = .ok d ∧ Released a.attributes d.canonical ∧
      ∀ others, others.Perm a.attributes →
        check (withAttributes a others) = .ok () ∧ extract (withAttributes a others) = .ok d := by
  have conforms := check_eq_ok_iff.1 checked
  obtain ⟨d, extracted, released⟩ := exists_extract role conforms
  refine ⟨d, extracted, released, fun others order => ⟨?_, ?_⟩⟩
  · exact check_eq_ok_iff.2 (conforms.withAttributes order)
  · exact extract_withAttributes conforms order extracted

/-- The start of the year 2010. -/
def turn : Instant := ⟨⟨14610, by decide, by decide⟩, 0, 0, by decide, by decide⟩

/-- An assertion about a subject who changed name and address then, with its attributes in no order. -/
def married : Assertion :=
  { Assertion.empty with
    attributeStatement := some ⟨[
      ⟨"MDS_previousaddress", [.address ⟨["1 Old Road"], none, none, none, false, none, some turn⟩]⟩,
      ⟨"MDS_surname",
        [.personName ⟨"Jones", true, some turn, none⟩, .personName ⟨"Smith", true, none, some turn⟩]⟩,
      ⟨"MDS_dateofbirth", [.date ⟨"1970-02-28", true, none, none⟩]⟩,
      ⟨"MDS_currentaddress",
        [.address ⟨["2 New Road"], some "AB1 2CD", none, none, true, some turn, none⟩]⟩,
      ⟨"MDS_gender", [.gender ⟨"FEMALE", true, none, none⟩]⟩,
      ⟨"MDS_firstname", [.personName ⟨"Ann", true, none, none⟩]⟩]⟩ }

theorem extract_of_check_married :
    married.role = .identity ∧ check married = .ok () ∧
      ∃ d, extract married = .ok d ∧ Released married.attributes d.canonical ∧
        ∀ others, others.Perm married.attributes →
          check (withAttributes married others) = .ok () ∧
            extract (withAttributes married others) = .ok d :=
  ⟨rfl, rfl, extract_of_check rfl rfl⟩

end RelyingParty.Schema
