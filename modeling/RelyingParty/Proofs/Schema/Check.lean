import Mathlib.Data.List.Nodup
import RelyingParty.Proofs.Schema.Basic
import RelyingParty.Schema.Check

/-!
# What the schema check accepts

An attribute is accepted when it is one of the schema's, stands where it may, and has good values in the
right number. The attributes of an assertion are accepted when each of them is, no two share a name, and
an identity assertion has the required ones.
-/

namespace RelyingParty
set_option autoImplicit false

namespace Schema

/-- The ends of a value's interval are in order, and its text names a gender or a date where it
should. -/
def Sound : AttributeValue → Prop
  | .personName p => Validity.Ordered ⟨p.from?, p.to?⟩
  | .gender g => Validity.Ordered ⟨g.from?, g.to?⟩ ∧ ∃ x, Gender.ofName? g.value = some x
  | .date d => Validity.Ordered ⟨d.from?, d.to?⟩ ∧ ∃ x, Calendar.Date.ofCompactText? d.value = some x
  | .address a => Validity.Ordered ⟨a.from?, a.to?⟩
  | .ipAddress _ => True

/-- A value is of the kind of an attribute, and sound. -/
def Good (f : Field) (v : AttributeValue) : Prop :=
  v.kind = f.kind ∧ Sound v

/-- An attribute of an assertion with a role is an attribute of the schema, with good values. -/
structure Fits (role : AssertionRole) (a : Attribute) (f : Field) : Prop where
  name : f.name = a.name
  allowed : f.allowedOn = role
  nonempty : a.values ≠ []
  single : f.singleValued = true → a.values.length = 1
  good : ∀ v ∈ a.values, Good f v

/-- The attributes of an assertion follow the schema. -/
structure Conforms (a : Assertion) : Prop where
  statement : a.role = .identity → a.attributeStatement ≠ none
  distinct : (a.attributes.map Attribute.name).Nodup
  fits : ∀ x ∈ a.attributes, ∃ f, Fits a.role x f
  required : a.role = .identity → ∀ f ∈ Field.requiredFields, ∃ x ∈ a.attributes, x.name = f.name

theorem exists_interval_iff {name : String} {start stop : Option Calendar.Instant} :
    (do let _ ← interval name start stop) = Except.ok () ↔ Validity.Ordered ⟨start, stop⟩ := by
  simp only [bind_eq_ok_iff, interval_eq_ok_iff]
  constructor
  · rintro ⟨_, ⟨ordered, _⟩, _⟩
    exact ordered
  · intro ordered
    exact ⟨_, ⟨ordered, rfl⟩, rfl⟩

theorem checkValue_eq_ok_iff {f : Field} {v : AttributeValue} : checkValue f v = .ok () ↔ Good f v := by
  unfold checkValue Good
  by_cases kind : v.kind = f.kind
  · rw [if_neg (not_not_intro kind), and_iff_right kind]
    cases v with
    | personName p => exact exists_interval_iff
    | gender g =>
      simp only [bind_eq_ok_iff, interval_eq_ok_iff, genderOf_eq_ok_iff, Sound]
      constructor
      · rintro ⟨_, ⟨ordered, _⟩, x, named, _⟩
        exact ⟨ordered, x, named⟩
      · rintro ⟨ordered, x, named⟩
        exact ⟨_, ⟨ordered, rfl⟩, x, named, rfl⟩
    | date d =>
      simp only [bind_eq_ok_iff, interval_eq_ok_iff, dateOf_eq_ok_iff, Sound]
      constructor
      · rintro ⟨_, ⟨ordered, _⟩, x, read, _⟩
        exact ⟨ordered, x, read⟩
      · rintro ⟨ordered, x, read⟩
        exact ⟨_, ⟨ordered, rfl⟩, x, read, rfl⟩
    | address a => exact exists_interval_iff
    | ipAddress s => exact ⟨fun _ => trivial, fun _ => rfl⟩
  · rw [if_pos kind]
    exact ⟨nofun, fun good => absurd good.1 kind⟩

theorem checkValues_eq_ok_iff {f : Field} {values : List AttributeValue} :
    checkValues f values = .ok () ↔ ∀ v ∈ values, Good f v := by
  induction values with
  | nil => simp [checkValues]
  | cons v rest ih =>
    rw [checkValues, bind_eq_ok_iff, List.forall_mem_cons]
    constructor
    · rintro ⟨_, first, others⟩
      exact ⟨checkValue_eq_ok_iff.1 first, ih.1 others⟩
    · rintro ⟨first, others⟩
      exact ⟨(), checkValue_eq_ok_iff.2 first, ih.2 others⟩

theorem checkAttribute_eq_ok_iff {role : AssertionRole} {seen : List Field} {a : Attribute}
    {f : Field} :
    checkAttribute role seen a = .ok f ↔ Fits role a f ∧ f ∉ seen := by
  cases known : Field.ofName? a.name with
  | none =>
    have refused : checkAttribute role seen a = .error (.unknownAttribute a.name) := by
      simp only [checkAttribute, known]
      rfl
    rw [refused]
    constructor
    · intro accepted
      cases accepted
    · rintro ⟨fits, -⟩
      rw [Field.ofName?_eq_some_iff.2 fits.name] at known
      cases known
  | some g =>
    have named := Field.ofName?_eq_some_iff.1 known
    simp only [checkAttribute, known, throw_bind_else_eq_ok_iff, bind_eq_ok_iff]
    constructor
    · rintro ⟨allowed, unseen, nonempty, notMany, _, values, answer⟩
      obtain rfl := Except.ok.inj answer
      have some_value := List.length_pos_iff.2 nonempty
      have single (holds : g.singleValued = true) : a.values.length = 1 := by
        have few : ¬a.values.length > 1 := fun many => notMany ⟨holds, many⟩
        omega
      exact ⟨⟨named, not_not.1 allowed, nonempty, single, checkValues_eq_ok_iff.1 values⟩, unseen⟩
    · rintro ⟨fits, unseen⟩
      obtain rfl := Field.name_injective (named.trans fits.name.symm)
      refine ⟨not_not_intro fits.allowed, unseen, fits.nonempty, ?_, (),
        checkValues_eq_ok_iff.2 fits.good, rfl⟩
      rintro ⟨single, many⟩
      exact absurd (fits.single single) (Nat.ne_of_gt many)

/-- The attributes seen so far carry the check: no attribute is one of them, and each is added to
them. -/
theorem checkAttributes_eq_ok_iff {role : AssertionRole} {seen after : List Field}
    {attributes : List Attribute} :
    checkAttributes role seen attributes = .ok after ↔
      ∃ fields, List.Forall₂ (Fits role) attributes fields ∧ fields.Nodup ∧ fields.Disjoint seen ∧
        after = fields.reverse ++ seen := by
  induction attributes generalizing seen with
  | nil =>
    rw [checkAttributes]
    constructor
    · intro answer
      exact ⟨[], .nil, List.nodup_nil, List.disjoint_nil_left seen, (Except.ok.inj answer).symm⟩
    · rintro ⟨fields, each, -, -, rfl⟩
      rw [List.forall₂_nil_left_iff.1 each]
      rfl
  | cons a rest ih =>
    simp only [checkAttributes, bind_eq_ok_iff, checkAttribute_eq_ok_iff, ih]
    constructor
    · rintro ⟨f, ⟨fits, unseen⟩, fields, each, distinct, apart, rfl⟩
      rw [List.disjoint_cons_right] at apart
      refine ⟨f :: fields, .cons fits each, List.nodup_cons.2 ⟨apart.1, distinct⟩, ?_, by simp⟩
      exact List.disjoint_cons_left.2 ⟨unseen, apart.2⟩
    · rintro ⟨_, each, distinct, apart, rfl⟩
      obtain ⟨f, fields, fits, others, rfl⟩ := List.forall₂_cons_left_iff.1 each
      rw [List.nodup_cons] at distinct
      rw [List.disjoint_cons_left] at apart
      refine ⟨f, ⟨fits, apart.1⟩, fields, others, distinct.2, ?_, by simp⟩
      exact List.disjoint_cons_right.2 ⟨distinct.1, apart.2⟩

theorem map_name_eq {role : AssertionRole} {attributes : List Attribute} {fields : List Field}
    (each : List.Forall₂ (Fits role) attributes fields) :
    attributes.map Attribute.name = fields.map Field.name := by
  induction each with
  | nil => rfl
  | cons fits _ ih => rw [List.map_cons, List.map_cons, fits.name, ih]

theorem exists_checkAttributes_iff {role : AssertionRole} {attributes : List Attribute} :
    (∃ seen, checkAttributes role [] attributes = .ok seen) ↔
      (attributes.map Attribute.name).Nodup ∧ ∀ a ∈ attributes, ∃ f, Fits role a f := by
  constructor
  · rintro ⟨seen, checked⟩
    obtain ⟨fields, each, distinct, -, -⟩ := checkAttributes_eq_ok_iff.1 checked
    rw [map_name_eq each]
    exact ⟨List.Nodup.map Field.name_injective distinct, exists_forall₂_iff.1 ⟨fields, each⟩⟩
  · rintro ⟨distinct, fits⟩
    obtain ⟨fields, each⟩ := exists_forall₂_iff.2 fits
    rw [map_name_eq each] at distinct
    have apart : fields.Disjoint [] := List.disjoint_nil_right fields
    exact ⟨_, checkAttributes_eq_ok_iff.2 ⟨fields, each, List.Nodup.of_map _ distinct, apart, rfl⟩⟩

theorem mem_of_checkAttributes {role : AssertionRole} {attributes : List Attribute} {seen : List Field}
    (checked : checkAttributes role [] attributes = .ok seen) (f : Field) :
    f ∈ seen ↔ ∃ a ∈ attributes, a.name = f.name := by
  obtain ⟨fields, each, -, -, rfl⟩ := checkAttributes_eq_ok_iff.1 checked
  rw [List.append_nil, List.mem_reverse, ← List.mem_map_of_injective Field.name_injective,
    ← map_name_eq each, List.mem_map]

theorem checkRequired_eq_ok_iff {seen required : List Field} :
    checkRequired seen required = .ok () ↔ ∀ f ∈ required, f ∈ seen := by
  induction required with
  | nil => exact ⟨fun _ => nofun, fun _ => rfl⟩
  | cons f rest ih =>
    rw [checkRequired, List.forall_mem_cons, ← ih]
    by_cases present : f ∈ seen
    · rw [if_pos present, and_iff_right present]
    · rw [if_neg present]
      exact ⟨nofun, fun both => absurd both.1 present⟩

/-- **The check accepts exactly what follows the schema.** -/
theorem check_eq_ok_iff {a : Assertion} : check a = .ok () ↔ Conforms a := by
  unfold check
  cases present : a.attributeStatement with
  | none =>
    have nothing : a.attributes = [] := by rw [Assertion.attributes, present]; rfl
    cases role : a.role with
    | identity => exact ⟨nofun, fun conforms => absurd present (conforms.statement role)⟩
    | authn =>
      have other : a.role ≠ .identity := by rw [role]; exact nofun
      have conforms : Conforms a := by
        constructor
        · intro identity
          exact absurd identity other
        · rw [nothing]
          exact List.nodup_nil
        · rw [nothing]
          exact List.forall_mem_nil _
        · intro identity
          exact absurd identity other
      exact iff_of_true rfl conforms
  | some s =>
    have attributes : a.attributes = s.attributes := by rw [Assertion.attributes, present]; rfl
    have given : a.attributeStatement ≠ none := by rw [present]; exact nofun
    simp only [bind_eq_ok_iff, ← attributes]
    constructor
    · rintro ⟨seen, checked, last⟩
      obtain ⟨distinct, fits⟩ := exists_checkAttributes_iff.1 ⟨seen, checked⟩
      have required (identity : a.role = .identity) (f : Field) (needed : f ∈ Field.requiredFields) :
          ∃ x ∈ a.attributes, x.name = f.name := by
        rw [identity] at last
        exact (mem_of_checkAttributes checked f).1 (checkRequired_eq_ok_iff.1 last f needed)
      exact ⟨fun _ => given, distinct, fits, required⟩
    · rintro ⟨-, distinct, fits, required⟩
      obtain ⟨seen, checked⟩ := exists_checkAttributes_iff.2 ⟨distinct, fits⟩
      refine ⟨seen, checked, ?_⟩
      cases role : a.role with
      | authn => rfl
      | identity =>
        have present (f : Field) (holds : f ∈ Field.requiredFields) : f ∈ seen :=
          (mem_of_checkAttributes checked f).2 (required role f holds)
        exact checkRequired_eq_ok_iff.2 present

end Schema
end RelyingParty
