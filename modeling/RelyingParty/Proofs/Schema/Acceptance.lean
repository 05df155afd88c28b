import RelyingParty.Proofs.Schema.Agreement
import RelyingParty.Proofs.Schema.Disclosure

/-!
# The schema, in its own words

An authentication assertion may carry the address of the subject's device, and nothing else; an identity
assertion carries the dataset, with one attribute a name. The check accepts exactly these, in any order,
and otherwise names the first attribute at fault.
-/

namespace RelyingParty
set_option autoImplicit false
open Calendar

/-- The interval of a value; the address of a device has no ends. -/
def AttributeValue.ends : AttributeValue → Validity
  | .personName v | .date v | .gender v => ⟨v.from?, v.to?⟩
  | .address a => ⟨a.from?, a.to?⟩
  | .ipAddress _ => .unbounded

namespace Schema

/-! ## What an assertion may carry -/

/-- The names of the dataset, with the kinds of their values. -/
def datasetKinds : List (String × ValueKind) :=
  [("MDS_firstname", .personName), ("MDS_middlename", .personName), ("MDS_surname", .personName),
    ("MDS_gender", .gender), ("MDS_dateofbirth", .date), ("MDS_currentaddress", .address),
    ("MDS_previousaddress", .address)]

/-- The names of the dataset that have one value. -/
def singleNames : List String :=
  ["MDS_firstname", "MDS_middlename", "MDS_gender", "MDS_dateofbirth"]

/-- The texts of genders. -/
def genderNames : List String := ["FEMALE", "MALE", "NOT_SPECIFIED"]

/-- The address of a device. -/
structure DeviceAttribute (a : Attribute) : Prop where
  name : a.name = "TXN_IPaddress"
  value : ∃ v, a.values = [v] ∧ v.kind = .ipAddress

/-- An attribute of the dataset, with values of its kind that can be read. -/
structure DatasetAttribute (a : Attribute) : Prop where
  kind : ∃ k, (a.name, k) ∈ datasetKinds ∧ ∀ v ∈ a.values, v.kind = k
  nonempty : a.values ≠ []
  single : a.name ∈ singleNames → a.values.length = 1
  ordered : ∀ v ∈ a.values, v.ends.Ordered
  gender : ∀ g, .gender g ∈ a.values → g.value ∈ genderNames
  date : ∀ d, .date d ∈ a.values → ∃ x, Date.ofCompactText? d.value = some x

/-- An attribute that is in order by itself, on an assertion with a role. -/
def GoodAttribute : AssertionRole → Attribute → Prop
  | .authn => DeviceAttribute
  | .identity => DatasetAttribute

/-- Attributes that are in order by themselves, and none of which repeats the name of another. -/
structure Clean (role : AssertionRole) (attributes : List Attribute) : Prop where
  good : ∀ a ∈ attributes, GoodAttribute role a
  distinct : (attributes.map Attribute.name).Nodup

/-- The attributes of an authentication assertion: at most the address of the device. -/
structure DeviceStatement (attributes : List Attribute) : Prop where
  good : ∀ a ∈ attributes, DeviceAttribute a
  single : attributes.length ≤ 1

/-- The attributes of an identity assertion: a first name, a date of birth and any others of the dataset,
each name once. -/
structure DatasetStatement (attributes : List Attribute) : Prop where
  good : ∀ a ∈ attributes, DatasetAttribute a
  distinct : (attributes.map Attribute.name).Nodup
  firstName : "MDS_firstname" ∈ attributes.map Attribute.name
  dateOfBirth : "MDS_dateofbirth" ∈ attributes.map Attribute.name

/-- The attribute statement of an assertion is one for its role; only a sign-in needs none. -/
def FollowsSchema (a : Assertion) : Prop :=
  match a.role, a.attributeStatement with
  | .authn, none => True
  | .authn, some s => DeviceStatement s.attributes
  | .identity, none => False
  | .identity, some s => DatasetStatement s.attributes

/-- What an error about attributes reports: the first one that is not in order or repeats the name of an
earlier one, or else a required name that is missing, the first name before the date of birth. -/
inductive Blamed (role : AssertionRole) (attributes : List Attribute) (e : AttributeError) : Prop where
  | attribute {before after : List Attribute} {x : Attribute} (place : attributes = before ++ x :: after)
    (clean : Clean role before) (fault : ¬GoodAttribute role x ∨ x.name ∈ before.map Attribute.name)
    (named : e.attribute? = some x.name)
  | firstName (clean : Clean role attributes) (identity : role = .identity)
    (missing : "MDS_firstname" ∉ attributes.map Attribute.name)
    (error : e = .missingAttribute "MDS_firstname")
  | dateOfBirth (clean : Clean role attributes) (identity : role = .identity)
    (present : "MDS_firstname" ∈ attributes.map Attribute.name)
    (missing : "MDS_dateofbirth" ∉ attributes.map Attribute.name)
    (error : e = .missingAttribute "MDS_dateofbirth")

/-! ## The tables of the schema -/

theorem mem_datasetKinds_iff {name : String} {k : ValueKind} :
    (name, k) ∈ datasetKinds ↔ ∃ f : Field, f.allowedOn = .identity ∧ f.name = name ∧ f.kind = k := by
  have table : datasetKinds = datasetFields.map fun f => (f.name, f.kind) := rfl
  rw [table, List.mem_map]
  constructor
  · rintro ⟨f, member, same⟩
    obtain ⟨named, kind⟩ := Prod.mk.inj same
    refine ⟨f, ?_, named, kind⟩
    revert member
    cases f <;> decide
  · rintro ⟨f, allowed, rfl, rfl⟩
    exact ⟨f, mem_datasetFields allowed, rfl⟩

theorem mem_singleNames_iff {f : Field} (allowed : f.allowedOn = .identity) :
    f.name ∈ singleNames ↔ f.singleValued = true := by
  revert allowed
  cases f <;> decide

theorem mem_genderNames_iff {s : String} : s ∈ genderNames ↔ ∃ g, Gender.ofName? s = some g := by
  simp only [Gender.ofName?_eq_some_iff]
  have table : genderNames = Gender.all.map Gender.name := rfl
  rw [table, List.mem_map]
  constructor
  · rintro ⟨g, -, same⟩
    exact ⟨g, same⟩
  · rintro ⟨g, same⟩
    exact ⟨g, by cases g <;> decide, same⟩

/-! ## Attributes by themselves -/

theorem sound_iff {v : AttributeValue} :
    Sound v ↔ v.ends.Ordered ∧ (∀ g, v = .gender g → g.value ∈ genderNames) ∧
      ∀ d, v = .date d → ∃ x, Date.ofCompactText? d.value = some x := by
  cases v with
  | personName p => simp [Sound, AttributeValue.ends]
  | gender g => simp [Sound, AttributeValue.ends, mem_genderNames_iff]
  | date d => simp [Sound, AttributeValue.ends]
  | address a => simp [Sound, AttributeValue.ends]
  | ipAddress s => simp [Sound, AttributeValue.ends, Validity.unbounded, Validity.Ordered]

theorem exists_fits_authn_iff {a : Attribute} : (∃ f, Fits .authn a f) ↔ DeviceAttribute a := by
  constructor
  · rintro ⟨f, fits⟩
    obtain rfl : f = .ipAddress := by
      have allowed := fits.allowed
      cases f <;> first | rfl | cases allowed
    obtain ⟨v, only⟩ := List.length_eq_one_iff.1 (fits.single rfl)
    exact ⟨fits.name.symm, v, only, (fits.good v (only ▸ List.mem_singleton.2 rfl)).1⟩
  · rintro ⟨name, v, only, kind⟩
    have sound : Sound v := by
      cases v with
      | ipAddress s => trivial
      | _ => cases kind
    refine ⟨.ipAddress, name.symm, rfl, ?_, fun _ => ?_, ?_⟩
    · rw [only]
      exact List.cons_ne_nil v []
    · rw [only]
      rfl
    · rw [only, List.forall_mem_singleton]
      exact ⟨kind, sound⟩

theorem exists_fits_identity_iff {a : Attribute} : (∃ f, Fits .identity a f) ↔ DatasetAttribute a := by
  constructor
  · rintro ⟨f, fits⟩
    have sound (v : AttributeValue) (member : v ∈ a.values) := sound_iff.1 (fits.good v member).2
    constructor
    · exact ⟨f.kind, mem_datasetKinds_iff.2 ⟨f, fits.allowed, fits.name, rfl⟩, fun v member =>
        (fits.good v member).1⟩
    · exact fits.nonempty
    · intro single
      rw [← fits.name, mem_singleNames_iff fits.allowed] at single
      exact fits.single single
    · exact fun v member => (sound v member).1
    · exact fun g member => (sound _ member).2.1 g rfl
    · exact fun d member => (sound _ member).2.2 d rfl
  · intro good
    obtain ⟨k, known, kind⟩ := good.kind
    obtain ⟨f, allowed, name, rfl⟩ := mem_datasetKinds_iff.1 known
    refine ⟨f, name, allowed, good.nonempty, ?_, fun v member => ⟨kind v member, ?_⟩⟩
    · intro single
      exact good.single (name ▸ (mem_singleNames_iff allowed).2 single)
    · refine sound_iff.2 ⟨good.ordered v member, ?_, ?_⟩
      · rintro g rfl
        exact good.gender g member
      · rintro d rfl
        exact good.date d member

theorem exists_fits_iff {role : AssertionRole} {a : Attribute} :
    (∃ f, Fits role a f) ↔ GoodAttribute role a := by
  cases role with
  | authn => exact exists_fits_authn_iff
  | identity => exact exists_fits_identity_iff

theorem exists_checkAttributes_iff_clean {role : AssertionRole} {attributes : List Attribute} :
    (∃ seen, checkAttributes role [] attributes = .ok seen) ↔ Clean role attributes := by
  simp only [exists_checkAttributes_iff, exists_fits_iff]
  exact ⟨fun ⟨distinct, good⟩ => ⟨good, distinct⟩, fun clean => ⟨clean.distinct, clean.good⟩⟩

/-! ## Whole statements -/

theorem length_le_one_iff_nodup {attributes : List Attribute} (good : ∀ a ∈ attributes, DeviceAttribute a) :
    attributes.length ≤ 1 ↔ (attributes.map Attribute.name).Nodup := by
  have all_named : ∀ name ∈ attributes.map Attribute.name, name = "TXN_IPaddress" := by
    intro name member
    obtain ⟨a, here, rfl⟩ := List.mem_map.1 member
    exact (good a here).name
  rw [List.eq_replicate_of_mem all_named, List.nodup_replicate, List.length_map]

theorem mem_names_iff {attributes : List Attribute} {name : String} :
    name ∈ attributes.map Attribute.name ↔ ∃ a ∈ attributes, a.name = name :=
  List.mem_map

section Statements

variable {a : Assertion}

theorem conforms_authn_iff (role : a.role = .authn) : Conforms a ↔ DeviceStatement a.attributes := by
  constructor
  · rintro ⟨-, distinct, fits, -⟩
    have good : ∀ x ∈ a.attributes, DeviceAttribute x := fun x member =>
      exists_fits_authn_iff.1 (role ▸ fits x member)
    exact ⟨good, (length_le_one_iff_nodup good).2 distinct⟩
  · rintro ⟨good, single⟩
    have identity (same : a.role = .identity) : False := nomatch role.symm.trans same
    refine ⟨fun same => (identity same).elim, (length_le_one_iff_nodup good).1 single, ?_,
      fun same => (identity same).elim⟩
    intro x member
    rw [role]
    exact exists_fits_authn_iff.2 (good x member)

theorem conforms_identity_iff (role : a.role = .identity) :
    Conforms a ↔ a.attributeStatement ≠ none ∧ DatasetStatement a.attributes := by
  constructor
  · rintro ⟨given, distinct, fits, required⟩
    have present (f : Field) (needed : f ∈ Field.requiredFields) :
        f.name ∈ a.attributes.map Attribute.name :=
      mem_names_iff.2 (required role f needed)
    refine ⟨given role, fun x member => ?_, distinct, present .firstName (by decide),
      present .dateOfBirth (by decide)⟩
    exact exists_fits_identity_iff.1 (role ▸ fits x member)
  · rintro ⟨given, good, distinct, firstName, dateOfBirth⟩
    refine ⟨fun _ => given, distinct, fun x member => ?_, fun _ f needed => ?_⟩
    · rw [role]
      exact exists_fits_identity_iff.2 (good x member)
    · rw [← mem_names_iff]
      rcases List.mem_pair.1 needed with rfl | rfl
      · exact firstName
      · exact dateOfBirth

theorem attributes_eq {s : AttributeStatement} (statement : a.attributeStatement = some s) :
    a.attributes = s.attributes := by
  rw [Assertion.attributes, statement]
  rfl

theorem conforms_iff : Conforms a ↔ FollowsSchema a := by
  unfold FollowsSchema
  cases statement : a.attributeStatement with
  | none =>
    have nothing : a.attributes = [] := by rw [Assertion.attributes, statement]; rfl
    cases role : a.role with
    | authn =>
      rw [conforms_authn_iff role, nothing]
      exact iff_of_true ⟨List.forall_mem_nil _, Nat.zero_le 1⟩ trivial
    | identity => exact iff_of_false (fun conforms => conforms.statement role statement) id
  | some s =>
    cases role : a.role with
    | authn => rw [conforms_authn_iff role, attributes_eq statement]
    | identity =>
      have given : a.attributeStatement ≠ none := by rw [statement]; exact Option.some_ne_none s
      rw [conforms_identity_iff role, attributes_eq statement, and_iff_right given]

end Statements

/-! ## What an error names -/

/-- A computation fails with nothing but errors about one attribute. -/
def Names {α : Type} (name : String) (answer : Except AttributeError α) : Prop :=
  ∀ e, answer = .error e → e.attribute? = some name

section Names

variable {α β : Type} {name : String}

theorem names_ok (a : α) : Names name (.ok a : Except AttributeError α) := nofun

theorem names_error {e : AttributeError} (about : e.attribute? = some name) :
    Names name (.error e : Except AttributeError α) := by
  intro other failing
  obtain rfl := Except.error.inj failing
  exact about

theorem Names.bind {x : Except AttributeError α} {next : α → Except AttributeError β}
    (first : Names name x) (rest : ∀ a, Names name (next a)) : Names name (x >>= next) := by
  cases x with
  | error e => exact names_error (first e rfl)
  | ok a => exact rest a

theorem Names.refusal {refused : Prop} [Decidable refused] {e : AttributeError}
    {x : Except AttributeError α} (about : e.attribute? = some name) (rest : Names name x) :
    Names name (if refused then .error e else x) := by
  by_cases holds : refused
  · rw [if_pos holds]
    exact names_error about
  · rw [if_neg holds]
    exact rest

theorem names_interval (start stop : Option Instant) : Names name (interval name start stop) := by
  unfold interval
  cases Validity.new start stop with
  | error _ => exact names_error rfl
  | ok v => exact names_ok v

theorem names_dateOf (raw : String) : Names name (dateOf name raw) := by
  unfold dateOf
  cases Date.ofCompactText? raw with
  | none => exact names_error rfl
  | some d => exact names_ok d

theorem names_genderOf (raw : String) : Names name (genderOf name raw) := by
  unfold genderOf
  cases Gender.ofName? raw with
  | none => exact names_error rfl
  | some g => exact names_ok g

theorem names_checkValue (f : Field) (v : AttributeValue) : Names f.name (checkValue f v) := by
  unfold checkValue
  apply Names.refusal rfl
  cases v with
  | personName p => exact (names_interval _ _).bind fun _ => names_ok ()
  | gender g => exact (names_interval _ _).bind fun _ => (names_genderOf _).bind fun _ => names_ok ()
  | date d => exact (names_interval _ _).bind fun _ => (names_dateOf _).bind fun _ => names_ok ()
  | address a => exact (names_interval _ _).bind fun _ => names_ok ()
  | ipAddress s => exact names_ok ()

theorem names_checkValues (f : Field) (values : List AttributeValue) :
    Names f.name (checkValues f values) := by
  induction values with
  | nil => exact names_ok ()
  | cons v rest ih =>
    rw [checkValues]
    exact (names_checkValue f v).bind fun _ => ih

theorem names_checkAttribute (role : AssertionRole) (seen : List Field) (a : Attribute) :
    Names a.name (checkAttribute role seen a) := by
  unfold checkAttribute
  cases known : Field.ofName? a.name with
  | none => exact names_error rfl
  | some f =>
    apply Names.refusal rfl
    apply Names.refusal rfl
    apply Names.refusal rfl
    apply Names.refusal rfl
    rw [← Field.ofName?_eq_some_iff.1 known]
    exact (names_checkValues f a.values).bind fun _ => names_ok f

end Names

/-- A check of some attributes fails at one of them, after the ones before it were accepted. -/
theorem exists_of_checkAttributes_eq_error {role : AssertionRole} {seen : List Field}
    {attributes : List Attribute} {e : AttributeError}
    (failing : checkAttributes role seen attributes = .error e) :
    ∃ before x after fields, attributes = before ++ x :: after ∧
      checkAttributes role seen before = .ok fields ∧ checkAttribute role fields x = .error e := by
  induction attributes generalizing seen with
  | nil => cases failing
  | cons a rest ih =>
    rw [checkAttributes] at failing
    cases first : checkAttribute role seen a with
    | error other =>
      rw [first, error_bind] at failing
      obtain rfl := Except.error.inj failing
      exact ⟨[], a, rest, seen, rfl, rfl, first⟩
    | ok f =>
      rw [first, ok_bind] at failing
      obtain ⟨before, x, after, fields, rfl, accepted, refused⟩ := ih failing
      refine ⟨a :: before, x, after, fields, rfl, ?_, refused⟩
      rw [checkAttributes, first, ok_bind, accepted]

theorem blamed_of_checkAttributes {role : AssertionRole} {attributes : List Attribute}
    {e : AttributeError} (failing : checkAttributes role [] attributes = .error e) :
    Blamed role attributes e := by
  obtain ⟨before, x, after, fields, place, accepted, refused⟩ :=
    exists_of_checkAttributes_eq_error failing
  refine .attribute place (exists_checkAttributes_iff_clean.1 ⟨fields, accepted⟩) ?_
    (names_checkAttribute role fields x e refused)
  -- were it in order and its name new, it would have been accepted
  by_contra neither
  rw [not_or, not_not] at neither
  obtain ⟨f, fits⟩ := exists_fits_iff.2 neither.1
  have unseen : f ∉ fields := by
    intro seen
    rw [mem_of_checkAttributes accepted f, ← mem_names_iff, fits.name] at seen
    exact neither.2 seen
  rw [checkAttribute_eq_ok_iff.2 ⟨fits, unseen⟩] at refused
  cases refused

theorem blamed_of_checkRequired {attributes : List Attribute} {seen : List Field} {e : AttributeError}
    (accepted : checkAttributes .identity [] attributes = .ok seen)
    (failing : checkRequired seen Field.requiredFields = .error e) : Blamed .identity attributes e := by
  have clean := exists_checkAttributes_iff_clean.1 ⟨seen, accepted⟩
  have present (f : Field) : f ∈ seen ↔ f.name ∈ attributes.map Attribute.name :=
    (mem_of_checkAttributes accepted f).trans mem_names_iff.symm
  have firstName := present .firstName
  have dateOfBirth := present .dateOfBirth
  simp only [checkRequired, Field.requiredFields] at failing
  split at failing
  · rename_i named
    split at failing
    · cases failing
    · rename_i missing
      obtain rfl := Except.error.inj failing
      exact .dateOfBirth clean rfl (firstName.1 named) (mt dateOfBirth.2 missing) rfl
  · rename_i missing
    obtain rfl := Except.error.inj failing
    exact .firstName clean rfl (mt firstName.2 missing) rfl

theorem blamed_of_check {a : Assertion} {s : AttributeStatement} {e : AttributeError}
    (statement : a.attributeStatement = some s) (failing : check a = .error e) :
    Blamed a.role s.attributes e := by
  unfold check at failing
  rw [statement] at failing
  cases checked : checkAttributes a.role [] s.attributes with
  | error other =>
    simp only [checked, error_bind] at failing
    obtain rfl := Except.error.inj failing
    exact blamed_of_checkAttributes checked
  | ok seen =>
    simp only [checked, ok_bind] at failing
    cases role : a.role with
    | authn =>
      rw [role] at failing
      cases failing
    | identity =>
      rw [role] at failing checked
      exact blamed_of_checkRequired checked failing

/-- Reordering the attributes of a statement is undone by putting them back. -/
theorem check_withAttributes {a : Assertion} {s : AttributeStatement} {others : List Attribute}
    (statement : a.attributeStatement = some s) (order : others.Perm s.attributes) :
    check (withAttributes a others) = .ok () ↔ check a = .ok () := by
  have back : withAttributes (withAttributes a others) s.attributes = a := by
    rw [withAttributes, withAttributes, ← statement]
  rw [check_eq_ok_iff, check_eq_ok_iff]
  constructor
  · intro conforms
    rw [← back]
    exact conforms.withAttributes order.symm
  · intro conforms
    exact conforms.withAttributes (attributes_eq statement ▸ order)

/-- **The check accepts exactly what follows the schema**, in any order, and what it refuses of a
statement it names: the first attribute at fault, or else the first required one that is missing. -/
theorem check_follows_schema (a : Assertion) :
    (check a = .ok () ↔ FollowsSchema a) ∧
      (∀ s others, a.attributeStatement = some s → others.Perm s.attributes →
        (check (withAttributes a others) = .ok () ↔ check a = .ok ())) ∧
      ∀ s e, a.attributeStatement = some s → check a = .error e → Blamed a.role s.attributes e := by
  refine ⟨check_eq_ok_iff.trans conforms_iff, ?_, fun s e => blamed_of_check⟩
  intro s others statement order
  exact check_withAttributes statement order

/-- In reverse order the attributes are still accepted; a second time, the first of them is refused. -/
theorem check_follows_schema_married :
    married.attributeStatement = some ⟨married.attributes⟩ ∧ FollowsSchema married ∧
      check (withAttributes married married.attributes.reverse) = .ok () ∧
      Blamed .identity (married.attributes ++ married.attributes)
        (.duplicateAttribute "MDS_previousaddress") := by
  obtain ⟨accepted, reordered, -⟩ := check_follows_schema married
  obtain ⟨-, -, refused⟩ :=
    check_follows_schema (withAttributes married (married.attributes ++ married.attributes))
  refine ⟨rfl, accepted.1 rfl, ?_, refused _ _ rfl rfl⟩
  exact (reordered _ _ rfl (List.reverse_perm _)).2 rfl

end Schema
end RelyingParty
