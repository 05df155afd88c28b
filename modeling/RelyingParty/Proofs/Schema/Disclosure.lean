import RelyingParty.Proofs.Schema.Basic
import RelyingParty.Proofs.TwoRuns
import RelyingParty.Schema.Check
import RelyingParty.Schema.Extract

/-!
# What attribute errors disclose

The texts in attribute values are about a person. Two assertions that differ in nothing but such texts
are rejected for one reason, unless it is a text that one of them is rejected for; and of these texts a
message repeats none but that of a gender.
-/

namespace RelyingParty
set_option autoImplicit false

/-- A value without its texts. -/
def AttributeValue.redacted : AttributeValue → AttributeValue
  | .personName p => .personName { p with value := "" }
  | .date d => .date { d with value := "" }
  | .gender g => .gender { g with value := "" }
  | .address a =>
    .address { a with lines := [], postCode := none, internationalPostCode := none, uprn := none }
  | .ipAddress _ => .ipAddress ""

/-- An attribute without the texts of its values. -/
def Attribute.redacted (a : Attribute) : Attribute :=
  { a with values := a.values.map AttributeValue.redacted }

/-- A statement without the texts of its values. -/
def AttributeStatement.redacted (s : AttributeStatement) : AttributeStatement :=
  ⟨s.attributes.map Attribute.redacted⟩

/-- An assertion without the texts of its attribute values; two that differ only in such texts have one
in common. -/
def Assertion.redacted (a : Assertion) : Assertion :=
  { a with attributeStatement := a.attributeStatement.map AttributeStatement.redacted }

namespace Schema
open Calendar

namespace AttributeError

/-- The name of the attribute that an error is about. -/
def attribute? : AttributeError → Option String
  | .missingAttributeStatement => none
  | .unknownAttribute name | .unexpectedAttribute name _ | .duplicateAttribute name
  | .emptyAttribute name | .tooManyValues name | .unexpectedValueKind name _ _ | .invalidValue name _
  | .invalidInterval name | .missingAttribute name => some name

/-- Two errors are of one variant, and about one attribute. -/
def Matches (x y : AttributeError) : Prop :=
  x.ctorIdx = y.ctorIdx ∧ x.attribute? = y.attribute?

/-- An error that does not depend on the texts of values. -/
def Plain : AttributeError → Prop
  | .invalidValue _ _ => False
  | _ => True

/-- An error about the text of a value: it is no date, or no gender. -/
inductive Textual : AttributeError → Prop
  | date : Textual (.invalidValue Field.dateOfBirth.name .notADate)
  | gender (raw : String) : Textual (.invalidValue Field.gender.name (.unknownGender raw))

/-- Two errors that repeat the texts of genders, each another. -/
def DifferInGender (x y : AttributeError) : Prop :=
  ∃ raw raw', raw ≠ raw' ∧ x = .invalidValue Field.gender.name (.unknownGender raw) ∧
    y = .invalidValue Field.gender.name (.unknownGender raw')

theorem message_unknownGender_injective {raw raw' : String}
    (same : message (.invalidValue Field.gender.name (.unknownGender raw)) =
      message (.invalidValue Field.gender.name (.unknownGender raw'))) : raw = raw' := by
  unfold message ValueFault.message Gender.unknownName at same
  rw [String.append_right_inj, String.append_right_inj] at same
  exact same

theorem Matches.symm {x y : AttributeError} (same : x.Matches y) : y.Matches x :=
  ⟨same.1.symm, same.2.symm⟩

theorem Matches.plain {x y : AttributeError} (same : x.Matches y) (plain : x.Plain) : y.Plain := by
  cases y with
  | invalidValue name fault =>
    cases x with
    | invalidValue name fault => exact plain
    | _ => cases same.1
  | _ => trivial

theorem Textual.not_plain {x : AttributeError} (textual : x.Textual) : ¬x.Plain := by
  cases textual with
  | date => exact id
  | gender raw => exact id

/-- Two errors of one variant about one attribute are the same, or both repeat a gender. -/
theorem message_eq_iff_of_alike {x y : AttributeError} (same : x.Matches y)
    (left : x.Textual ∨ x.Plain) (right : y.Textual ∨ y.Plain)
    (alike : x.Textual ∨ y.Textual ∨ x = y) : x.message = y.message ↔ ¬x.DifferInGender y := by
  have both : x.Textual ∧ y.Textual ∨ x = y := by
    rcases alike with textual | textual | equal
    · exact .inl ⟨textual, right.resolve_right fun plain => textual.not_plain (same.symm.plain plain)⟩
    · exact .inl ⟨left.resolve_right fun plain => textual.not_plain (same.plain plain), textual⟩
    · exact .inr equal
  constructor
  · rintro equal ⟨raw, raw', differ, rfl, rfl⟩
    exact differ (message_unknownGender_injective equal)
  · intro notGender
    rcases both with ⟨left, right⟩ | equal
    · cases left with
      | date =>
        cases right with
        | date => rfl
        | gender raw => exact absurd (Field.name_injective (Option.some.inj same.2)) nofun
      | gender raw =>
        cases right with
        | date => exact absurd (Field.name_injective (Option.some.inj same.2)) nofun
        | gender raw' =>
          by_cases equal : raw = raw'
          · rw [equal]
          · exact absurd ⟨raw, raw', equal, rfl, rfl⟩ notGender
    · rw [equal]

end AttributeError

/-! ## Values -/

open AttributeError

variable {α β : Type} {v w : AttributeValue}

theorem alike_interval (name : String) (start stop : Option Instant) :
    Alike Textual Plain (fun _ _ => True) (interval name start stop) (interval name start stop) := by
  unfold interval
  cases Validity.new start stop with
  | error _ => exact .failed trivial
  | ok _ => exact .passed trivial

theorem alike_dateOf (raw raw' : String) :
    Alike Textual Plain (fun _ _ => True) (dateOf Field.dateOfBirth.name raw)
      (dateOf Field.dateOfBirth.name raw') := by
  have textual (raw : String) (e : AttributeError) (failing : dateOf Field.dateOfBirth.name raw = .error e) :
      Textual e := by
    unfold dateOf at failing
    split at failing
    · cases failing
    · cases failing
      exact .date
  exact .of_excused (textual raw) (textual raw') fun _ _ _ _ => trivial

theorem alike_genderOf (raw raw' : String) :
    Alike Textual Plain (fun _ _ => True) (genderOf Field.gender.name raw)
      (genderOf Field.gender.name raw') := by
  have textual (raw : String) (e : AttributeError) (failing : genderOf Field.gender.name raw = .error e) :
      Textual e := by
    unfold genderOf at failing
    split at failing
    · cases failing
    · cases failing
      exact .gender raw
  exact .of_excused (textual raw) (textual raw') fun _ _ _ _ => trivial

/-- Two values differ in their texts only. -/
inductive SameButTexts : AttributeValue → AttributeValue → Prop
  | personName (s t : String) (verified : Bool) (start stop : Option Instant) :
    SameButTexts (.personName ⟨s, verified, start, stop⟩) (.personName ⟨t, verified, start, stop⟩)
  | date (s t : String) (verified : Bool) (start stop : Option Instant) :
    SameButTexts (.date ⟨s, verified, start, stop⟩) (.date ⟨t, verified, start, stop⟩)
  | gender (s t : String) (verified : Bool) (start stop : Option Instant) :
    SameButTexts (.gender ⟨s, verified, start, stop⟩) (.gender ⟨t, verified, start, stop⟩)
  | address (lines lines' : List String)
    (postCode postCode' international international' uprn uprn' : Option String) (verified : Bool)
    (start stop : Option Instant) :
    SameButTexts (.address ⟨lines, postCode, international, uprn, verified, start, stop⟩)
      (.address ⟨lines', postCode', international', uprn', verified, start, stop⟩)
  | ipAddress (s t : String) : SameButTexts (.ipAddress s) (.ipAddress t)

theorem sameButTexts_of_redacted (same : v.redacted = w.redacted) : SameButTexts v w := by
  cases v with
  | personName p =>
    cases w with
    | personName q =>
      cases p
      cases q
      cases same
      exact .personName _ _ _ _ _
    | _ => cases same
  | date p =>
    cases w with
    | date q =>
      cases p
      cases q
      cases same
      exact .date _ _ _ _ _
    | _ => cases same
  | gender p =>
    cases w with
    | gender q =>
      cases p
      cases q
      cases same
      exact .gender _ _ _ _ _
    | _ => cases same
  | address p =>
    cases w with
    | address q =>
      cases p
      cases q
      cases same
      exact .address _ _ _ _ _ _ _ _ _ _ _
    | _ => cases same
  | ipAddress s =>
    cases w with
    | ipAddress t => exact .ipAddress s t
    | _ => cases same

theorem SameButTexts.kind (same : SameButTexts v w) : v.kind = w.kind := by
  cases same <;> rfl

/-- Attributes of one name whose values differ in their texts only. -/
def SameAttribute (a b : Attribute) : Prop :=
  a.name = b.name ∧ List.Forall₂ SameButTexts a.values b.values

theorem forall₂_of_map_eq {f : α → β} {as bs : List α} (same : as.map f = bs.map f) :
    List.Forall₂ (fun a b => f a = f b) as bs := by
  rw [← List.forall₂_eq_eq_eq, List.forall₂_map_left_iff, List.forall₂_map_right_iff] at same
  exact same

theorem sameAttribute_of_redacted {a b : Attribute} (same : a.redacted = b.redacted) :
    SameAttribute a b := by
  have name : a.redacted.name = b.redacted.name := congrArg Attribute.name same
  have values := forall₂_of_map_eq (congrArg Attribute.values same)
  exact ⟨name, values.imp fun _ _ => sameButTexts_of_redacted⟩

theorem sameStatement_of_redacted {a b : Assertion} (same : a.redacted = b.redacted) :
    Option.Rel (fun s t => List.Forall₂ SameAttribute s.attributes t.attributes)
      a.attributeStatement b.attributeStatement := by
  have statement : a.attributeStatement.map AttributeStatement.redacted =
      b.attributeStatement.map AttributeStatement.redacted := congrArg Assertion.attributeStatement same
  revert statement
  generalize a.attributeStatement = left, b.attributeStatement = right
  intro statement
  cases left with
  | none =>
    cases right with
    | none => exact .none
    | some t => cases statement
  | some s =>
    cases right with
    | none => cases statement
    | some t =>
      have attributes := congrArg AttributeStatement.attributes (Option.some.inj statement)
      exact .some ((forall₂_of_map_eq attributes).imp fun _ _ => sameAttribute_of_redacted)

theorem sameAttributes_of_redacted {a b : Assertion} (same : a.redacted = b.redacted) :
    List.Forall₂ SameAttribute a.attributes b.attributes := by
  have statement := sameStatement_of_redacted same
  unfold Assertion.attributes
  revert statement
  generalize a.attributeStatement = left, b.attributeStatement = right
  intro statement
  cases statement with
  | none => exact .nil
  | some attributes => exact attributes

theorem role_eq_of_redacted {a b : Assertion} (same : a.redacted = b.redacted) : a.role = b.role := by
  have role : a.redacted.role = b.redacted.role := congrArg Assertion.role same
  exact role

/-! ## The check -/

theorem alike_checkValue (f : Field) (same : SameButTexts v w) :
    Alike Textual Plain (fun _ _ => True) (checkValue f v) (checkValue f w) := by
  unfold checkValue
  rw [same.kind]
  by_cases fits : w.kind = f.kind
  · rw [if_neg (not_not_intro fits), if_neg (not_not_intro fits)]
    cases same with
    | personName s t verified start stop =>
      exact (alike_interval f.name start stop).bind fun _ _ _ => .passed trivial
    | date s t verified start stop =>
      obtain rfl : f = .dateOfBirth := by
        cases f with
        | dateOfBirth => rfl
        | _ => cases fits
      apply (alike_interval _ start stop).bind
      intro _ _ _
      exact (alike_dateOf s t).bind fun _ _ _ => .passed trivial
    | gender s t verified start stop =>
      obtain rfl : f = .gender := by
        cases f with
        | gender => rfl
        | _ => cases fits
      apply (alike_interval _ start stop).bind
      intro _ _ _
      exact (alike_genderOf s t).bind fun _ _ _ => .passed trivial
    | address lines lines' postCode postCode' international international' uprn uprn' verified start stop =>
      exact (alike_interval f.name start stop).bind fun _ _ _ => .passed trivial
    | ipAddress s t => exact .passed trivial
  · rw [if_pos fits, if_pos fits]
    exact .failed trivial

theorem alike_checkValues (f : Field) {values others : List AttributeValue}
    (same : List.Forall₂ SameButTexts values others) :
    Alike Textual Plain (fun _ _ => True) (checkValues f values) (checkValues f others) := by
  induction same with
  | nil => exact .passed trivial
  | cons first _ ih => exact (alike_checkValue f first).bind fun _ _ _ => ih

theorem alike_checkAttribute (role : AssertionRole) (seen : List Field) {a b : Attribute}
    (same : SameAttribute a b) :
    Alike Textual Plain Eq (checkAttribute role seen a) (checkAttribute role seen b) := by
  obtain ⟨name, values⟩ := same
  have length := values.length_eq
  unfold checkAttribute
  rw [name]
  cases Field.ofName? b.name with
  | none => exact .failed trivial
  | some f =>
    have empty : a.values = [] ↔ b.values = [] := by
      rw [← List.length_eq_zero_iff, length, List.length_eq_zero_iff]
    apply Alike.refusal Iff.rfl trivial
    apply Alike.refusal Iff.rfl trivial
    apply Alike.refusal empty trivial
    apply Alike.refusal (by rw [length]) trivial
    exact (alike_checkValues f values).bind fun _ _ _ => .passed rfl

theorem alike_checkAttributes (role : AssertionRole) (seen : List Field) {as bs : List Attribute}
    (same : List.Forall₂ SameAttribute as bs) :
    Alike Textual Plain Eq (checkAttributes role seen as) (checkAttributes role seen bs) := by
  induction same generalizing seen with
  | nil => exact .passed rfl
  | cons first _ ih =>
    apply (alike_checkAttribute role seen first).bind
    rintro f _ rfl
    exact ih (f :: seen)

theorem alike_checkRequired (seen required : List Field) :
    Alike Textual Plain (fun _ _ => True) (checkRequired seen required) (checkRequired seen required) := by
  induction required with
  | nil => exact .passed trivial
  | cons f rest ih =>
    rw [checkRequired]
    by_cases present : f ∈ seen
    · rw [if_pos present]
      exact ih
    · rw [if_neg present]
      exact .failed trivial

theorem alike_check {a b : Assertion} (same : a.redacted = b.redacted) :
    Alike Textual Plain (fun _ _ => True) (check a) (check b) := by
  have statement := sameStatement_of_redacted same
  unfold check
  rw [role_eq_of_redacted same]
  revert statement
  generalize a.attributeStatement = left, b.attributeStatement = right
  intro statement
  cases statement with
  | none =>
    cases b.role with
    | identity => exact .failed trivial
    | authn => exact .passed trivial
  | some attributes =>
    apply (alike_checkAttributes b.role [] attributes).bind
    rintro seen _ rfl
    cases b.role with
    | identity => exact alike_checkRequired seen Field.requiredFields
    | authn => exact .passed trivial

/-! ## Extraction -/

theorem alike_personName (f : Field) (same : SameButTexts v w) :
    Alike Textual Plain (fun _ _ => True) (personName f v) (personName f w) := by
  cases same with
  | personName s t verified start stop =>
    exact (alike_interval f.name start stop).bind fun _ _ _ => .passed trivial
  | _ => exact .failed trivial

theorem alike_gender (same : SameButTexts v w) :
    Alike Textual Plain (fun _ _ => True) (gender .gender v) (gender .gender w) := by
  cases same with
  | gender s t verified start stop =>
    apply (alike_genderOf s t).bind
    intro _ _ _
    exact (alike_interval _ start stop).bind fun _ _ _ => .passed trivial
  | _ => exact .failed trivial

theorem alike_date (same : SameButTexts v w) :
    Alike Textual Plain (fun _ _ => True) (date .dateOfBirth v) (date .dateOfBirth w) := by
  cases same with
  | date s t verified start stop =>
    apply (alike_dateOf s t).bind
    intro _ _ _
    exact (alike_interval _ start stop).bind fun _ _ _ => .passed trivial
  | _ => exact .failed trivial

theorem alike_address (f : Field) (same : SameButTexts v w) :
    Alike Textual Plain (fun _ _ => True) (address f v) (address f w) := by
  cases same with
  | address lines lines' postCode postCode' international international' uprn uprn' verified start stop =>
    exact (alike_interval f.name start stop).bind fun _ _ _ => .passed trivial
  | _ => exact .failed trivial

theorem alike_firstValue {related : Option α → Option α → Prop} (given : ∀ x y, related (some x) (some y))
    {read : AttributeValue → Except AttributeError α}
    (reads : ∀ {v w}, SameButTexts v w → Alike Textual Plain (fun _ _ => True) (read v) (read w))
    (before before' : Option α) (here : related before before') {values others : List AttributeValue}
    (same : List.Forall₂ SameButTexts values others) :
    Alike Textual Plain related (firstValue read before values) (firstValue read before' others) := by
  cases same with
  | nil => exact .passed here
  | cons first _ => exact (reads first).map fun x y _ => given x y

theorem alike_allValues {read : AttributeValue → Except AttributeError α}
    (reads : ∀ {v w}, SameButTexts v w → Alike Textual Plain (fun _ _ => True) (read v) (read w))
    (before before' : List α) {values others : List AttributeValue}
    (same : List.Forall₂ SameButTexts values others) :
    Alike Textual Plain (fun _ _ => True) (allValues read before values)
      (allValues read before' others) := by
  have each := Alike.mapM (same.imp fun _ _ => reads)
  exact each.map fun _ _ _ => trivial

/-- What was gathered has the same required attributes, which is all that the dataset can fail for. -/
def SameRequired (g h : Gathered) : Prop :=
  g.firstName.isSome = h.firstName.isSome ∧ g.dateOfBirth.isSome = h.dateOfBirth.isSome

theorem alike_add {g h : Gathered} (here : SameRequired g h) {a b : Attribute}
    (same : SameAttribute a b) : Alike Textual Plain SameRequired (g.add a) (h.add b) := by
  obtain ⟨name, values⟩ := same
  unfold Gathered.add
  rw [name]
  cases Field.ofName? b.name with
  | none => exact .passed here
  | some f =>
    cases f with
    | firstName =>
      have first : Alike Textual Plain (fun x y : Option (Timed String) => x.isSome = y.isSome) _ _ :=
        alike_firstValue (fun _ _ => rfl) (alike_personName .firstName) g.firstName h.firstName here.1
          values
      exact first.bind fun _ _ given => .passed ⟨given, here.2⟩
    | middleName =>
      have middle : Alike Textual Plain (fun _ _ => True) _ _ :=
        alike_firstValue (fun _ _ => trivial) (alike_personName .middleName) g.middleNames h.middleNames
          trivial values
      exact middle.bind fun _ _ _ => .passed here
    | surname =>
      have surnames := alike_allValues (alike_personName .surname) g.surnames h.surnames values
      exact surnames.bind fun _ _ _ => .passed here
    | gender =>
      have gender : Alike Textual Plain (fun _ _ => True) _ _ :=
        alike_firstValue (fun _ _ => trivial) alike_gender g.gender h.gender trivial values
      exact gender.bind fun _ _ _ => .passed here
    | dateOfBirth =>
      have birth : Alike Textual Plain (fun x y : Option (Timed Date) => x.isSome = y.isSome) _ _ :=
        alike_firstValue (fun _ _ => rfl) alike_date g.dateOfBirth h.dateOfBirth here.2 values
      exact birth.bind fun _ _ given => .passed ⟨here.1, given⟩
    | currentAddress =>
      have current := alike_allValues (alike_address .currentAddress) g.currentAddresses
        h.currentAddresses values
      exact current.bind fun _ _ _ => .passed here
    | previousAddress =>
      have previous := alike_allValues (alike_address .previousAddress) g.previousAddresses
        h.previousAddresses values
      exact previous.bind fun _ _ _ => .passed here
    | ipAddress => exact .passed here

theorem alike_gather {g h : Gathered} (here : SameRequired g h) {as bs : List Attribute}
    (same : List.Forall₂ SameAttribute as bs) :
    Alike Textual Plain SameRequired (gather g as) (gather h bs) := by
  induction same generalizing g h with
  | nil => exact .passed here
  | cons first _ ih =>
    apply (alike_add here first).bind
    intro _ _ here
    exact ih here

theorem alike_dataset {g h : Gathered} (here : SameRequired g h) :
    Alike Textual Plain (fun _ _ => True) g.dataset h.dataset := by
  obtain ⟨firstName, dateOfBirth⟩ := here
  unfold Gathered.dataset
  revert firstName dateOfBirth
  generalize g.firstName = first, h.firstName = first', g.dateOfBirth = birth, h.dateOfBirth = birth'
  intro firstName dateOfBirth
  cases first with
  | none =>
    cases first' with
    | none => exact .failed trivial
    | some _ => cases firstName
  | some _ =>
    cases first' with
    | none => cases firstName
    | some _ =>
      cases birth with
      | none =>
        cases birth' with
        | none => exact .failed trivial
        | some _ => cases dateOfBirth
      | some _ =>
        cases birth' with
        | none => cases dateOfBirth
        | some _ => exact .passed trivial

theorem alike_extract {a b : Assertion} (same : a.redacted = b.redacted) :
    Alike Textual Plain (fun _ _ => True) (extract a) (extract b) := by
  apply (alike_gather ⟨rfl, rfl⟩ (sameAttributes_of_redacted same)).bind
  intro _ _ here
  exact alike_dataset here

end Schema
end RelyingParty
