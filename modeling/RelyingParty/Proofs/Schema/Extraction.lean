import RelyingParty.Proofs.Refusal
import RelyingParty.Proofs.Schema.Acceptance

/-!
# Extraction, checked or not

Extraction takes attributes as they come: repeated, empty, with too many values, or unknown. Of each
attribute of the dataset it reads some values, the relevant ones. It fails with what is wrong with the
first of them that cannot be read, even if a later one would have taken its place, or else with the first
required name that has no value.
-/

namespace RelyingParty.Schema
set_option autoImplicit false
open Calendar

/-! ## What extraction reads -/

/-- The name of an attribute is one of the dataset. -/
def inDataset (a : Attribute) : Bool :=
  a.name ∈ datasetKinds.map Prod.fst

/-- The relevant values of an attribute of the dataset, with its name: of a single-valued one the first,
of another one all. -/
def relevantOf (a : Attribute) : List (String × AttributeValue) :=
  if inDataset a then
    (if a.name ∈ singleNames then a.values.take 1 else a.values).map fun v => (a.name, v)
  else []

/-- The relevant values of a statement, in order. -/
def relevant (attributes : List Attribute) : List (String × AttributeValue) :=
  attributes.flatMap relevantOf

/-- The text of a value stands for something: a gender by its name, a date as it is written. -/
def Legible : AttributeValue → Prop
  | .gender g => g.value ∈ genderNames
  | .date d => ∃ x, Date.ofCompactText? d.value = some x
  | _ => True

/-- A value can be read for the attribute with a name. -/
structure Readable (r : String × AttributeValue) : Prop where
  kind : (r.1, r.2.kind) ∈ datasetKinds
  legible : Legible r.2
  ordered : r.2.ends.Ordered

/-- What is wrong with a value under a name: its kind, or else its text, or else its interval. -/
inductive Misread : String × AttributeValue → AttributeError → Prop
  | kind {name : String} {v : AttributeValue} {k : ValueKind} (expected : (name, k) ∈ datasetKinds)
      (other : v.kind ≠ k) : Misread (name, v) (.unexpectedValueKind name k v.kind)
  | gender {name : String} {g : VerifiableText} (expected : (name, .gender) ∈ datasetKinds)
      (illegible : ¬Legible (.gender g)) :
      Misread (name, .gender g) (.invalidValue name (.unknownGender g.value))
  | date {name : String} {d : VerifiableText} (expected : (name, .date) ∈ datasetKinds)
      (illegible : ¬Legible (.date d)) : Misread (name, .date d) (.invalidValue name .notADate)
  | interval {name : String} {v : AttributeValue} (expected : (name, v.kind) ∈ datasetKinds)
      (legible : Legible v) (reversed : ¬v.ends.Ordered) : Misread (name, v) (.invalidInterval name)

/-- An attribute with a name has a value. -/
def HasValue (name : String) (attributes : List Attribute) : Prop :=
  ∃ a ∈ attributes, a.name = name ∧ a.values ≠ []

/-- What extraction fails with: what is wrong with the first relevant value that cannot be read, or else
the first name before the date of birth, when these have no value. -/
inductive Reported (attributes : List Attribute) (e : AttributeError) : Prop where
  | value {r : String × AttributeValue} (first : FirstRefusal Misread (relevant attributes) r e)
  | firstName (readable : ∀ r ∈ relevant attributes, Readable r)
    (absent : ¬HasValue "MDS_firstname" attributes) (error : e = .missingAttribute "MDS_firstname")
  | dateOfBirth (readable : ∀ r ∈ relevant attributes, Readable r)
    (present : HasValue "MDS_firstname" attributes) (absent : ¬HasValue "MDS_dateofbirth" attributes)
    (error : e = .missingAttribute "MDS_dateofbirth")

/-! ## What extraction gives -/

/-- The first value of the last attribute with a name that has any. -/
def lastNamed (name : String) (attributes : List Attribute) : Option AttributeValue :=
  ((attributes.filter fun a => a.name == name).filterMap fun a => a.values.head?).getLast?

/-- All values of the attributes with a name, in order. -/
def allNamed (name : String) (attributes : List Attribute) : List AttributeValue :=
  (attributes.filter fun a => a.name == name).flatMap Attribute.values

/-- A dataset holds what the attributes of a statement say: single values from the last attribute with
their name that has any, lists in order, the current addresses before the previous ones. -/
structure Extracted (attributes : List Attribute) (d : IdentityDataset) : Prop where
  firstName : List.Forall₂ NameOf (lastNamed "MDS_firstname" attributes).toList [d.firstName.canonical]
  middleNames : List.Forall₂ NameOf (lastNamed "MDS_middlename" attributes).toList
    (d.middleNames.toList.map Timed.canonical)
  surnames : List.Forall₂ NameOf (allNamed "MDS_surname" attributes) (d.surnames.map Timed.canonical)
  gender : List.Forall₂ GenderOf (lastNamed "MDS_gender" attributes).toList
    (d.gender.toList.map Timed.canonical)
  dateOfBirth : List.Forall₂ DateOf (lastNamed "MDS_dateofbirth" attributes).toList
    [d.dateOfBirth.canonical]
  addresses : List.Forall₂ AddressOf
    (allNamed "MDS_currentaddress" attributes ++ allNamed "MDS_previousaddress" attributes)
    (d.addresses.map Address.canonical)

/-! ## Attributes outside the dataset -/

theorem inDataset_iff {a : Attribute} :
    inDataset a = true ↔ ∃ f : Field, f.allowedOn = .identity ∧ f.name = a.name := by
  rw [inDataset, decide_eq_true_iff, List.mem_map]
  constructor
  · rintro ⟨⟨name, k⟩, known, rfl⟩
    obtain ⟨f, allowed, name, -⟩ := mem_datasetKinds_iff.1 known
    exact ⟨f, allowed, name⟩
  · rintro ⟨f, allowed, name⟩
    exact ⟨(f.name, f.kind), mem_datasetKinds_iff.2 ⟨f, allowed, rfl, rfl⟩, name⟩

theorem relevantOf_of_not_inDataset {a : Attribute} (outside : inDataset a = false) : relevantOf a = [] :=
  if_neg (ne_true_of_eq_false outside)

theorem add_of_not_inDataset {a : Attribute} (outside : inDataset a = false) (g : Gathered) :
    g.add a = .ok g := by
  unfold Gathered.add
  cases known : Field.ofName? a.name with
  | none => rfl
  | some f =>
    have unknown (allowed : f.allowedOn = .identity) : False :=
      ne_true_of_eq_false outside (inDataset_iff.2 ⟨f, allowed, Field.ofName?_eq_some_iff.1 known⟩)
    cases f with
    | ipAddress => rfl
    | _ => exact (unknown rfl).elim

theorem gather_filter_inDataset (g : Gathered) (attributes : List Attribute) :
    gather g (attributes.filter inDataset) = gather g attributes := by
  induction attributes generalizing g with
  | nil => rfl
  | cons a rest ih =>
    cases member : inDataset a with
    | true =>
      rw [List.filter_cons_of_pos member, gather, gather]
      exact bind_congr_of_ok fun h _ => ih h
    | false =>
      rw [List.filter_cons_of_neg (ne_true_of_eq_false member), ih, gather,
        add_of_not_inDataset member, ok_bind]

/-! ## Values that can and cannot be read -/

theorem kind_unique {name : String} {k k' : ValueKind} (known : (name, k) ∈ datasetKinds)
    (again : (name, k') ∈ datasetKinds) : k = k' := by
  obtain ⟨f, -, rfl, rfl⟩ := mem_datasetKinds_iff.1 known
  obtain ⟨g, -, same, rfl⟩ := mem_datasetKinds_iff.1 again
  rw [Field.name_injective same]

theorem sound_iff_legible {v : AttributeValue} : Sound v ↔ Legible v ∧ v.ends.Ordered := by
  rw [sound_iff, and_comm]
  cases v <;> simp [Legible]

theorem readable_iff_good {f : Field} (allowed : f.allowedOn = .identity) {v : AttributeValue} :
    Readable (f.name, v) ↔ Good f v := by
  have expected := mem_datasetKinds_iff.2 ⟨f, allowed, rfl, rfl⟩
  constructor
  · rintro ⟨kind, legible, ordered⟩
    exact ⟨kind_unique kind expected, sound_iff_legible.2 ⟨legible, ordered⟩⟩
  · rintro ⟨same, sound⟩
    obtain ⟨legible, ordered⟩ := sound_iff_legible.1 sound
    exact ⟨same ▸ expected, legible, ordered⟩

theorem Misread.not_readable {r : String × AttributeValue} {e : AttributeError} (misread : Misread r e) :
    ¬Readable r := by
  rintro ⟨kind, legible, ordered⟩
  cases misread with
  | kind expected other => exact other (kind_unique kind expected)
  | gender expected illegible => exact illegible legible
  | date expected illegible => exact illegible legible
  | interval expected legible' reversed => exact reversed ordered

theorem exists_misread {name : String} {k : ValueKind} (expected : (name, k) ∈ datasetKinds)
    {v : AttributeValue} (unreadable : ¬Readable (name, v)) : ∃ e, Misread (name, v) e := by
  by_cases other : v.kind ≠ k
  · exact ⟨_, .kind expected other⟩
  · obtain rfl := not_not.1 other
    by_cases legible : Legible v
    · exact ⟨_, .interval expected legible fun ordered => unreadable ⟨expected, legible, ordered⟩⟩
    · cases v with
      | gender g => exact ⟨_, .gender expected legible⟩
      | date d => exact ⟨_, .date expected legible⟩
      | _ => exact absurd trivial legible

theorem Misread.unique {r : String × AttributeValue} {e e' : AttributeError} (misread : Misread r e)
    (again : Misread r e') : e = e' := by
  cases misread with
  | kind expected other =>
    cases again with
    | kind expected' other' => rw [kind_unique expected expected']
    | gender expected' _ => exact absurd (kind_unique expected' expected) other
    | date expected' _ => exact absurd (kind_unique expected' expected) other
    | interval expected' _ _ => exact absurd (kind_unique expected' expected) other
  | gender expected illegible =>
    cases again with
    | kind expected' other' => exact absurd (kind_unique expected expected') other'
    | gender expected' _ => rfl
    | interval expected' legible _ => exact absurd legible illegible
  | date expected illegible =>
    cases again with
    | kind expected' other' => exact absurd (kind_unique expected expected') other'
    | date expected' _ => rfl
    | interval expected' legible _ => exact absurd legible illegible
  | interval expected legible reversed =>
    cases again with
    | kind expected' other' => exact absurd (kind_unique expected expected') other'
    | gender _ illegible => exact absurd legible illegible
    | date _ illegible => exact absurd legible illegible
    | interval _ _ _ => rfl

theorem exists_kind_of_mem_relevant {attributes : List Attribute} {r : String × AttributeValue}
    (member : r ∈ relevant attributes) : ∃ k, (r.1, k) ∈ datasetKinds := by
  obtain ⟨a, -, here⟩ := List.mem_flatMap.1 member
  unfold relevantOf at here
  split at here
  · obtain ⟨f, allowed, name⟩ := inDataset_iff.1 ‹_›
    obtain ⟨v, -, rfl⟩ := List.mem_map.1 here
    exact ⟨f.kind, mem_datasetKinds_iff.2 ⟨f, allowed, name, rfl⟩⟩
  · cases here

/-- Relevant values with which nothing is wrong are those that can be read. -/
theorem forall_not_misread_iff {attributes : List Attribute} :
    (∀ r ∈ relevant attributes, ∀ e, ¬Misread r e) ↔ ∀ r ∈ relevant attributes, Readable r := by
  constructor
  · intro clear r member
    by_contra unreadable
    obtain ⟨k, expected⟩ := exists_kind_of_mem_relevant member
    obtain ⟨e, misread⟩ := exists_misread expected unreadable
    exact clear r member e misread
  · intro readable r member e misread
    exact misread.not_readable (readable r member)

/-! ## What reading reports -/

section Reading

variable {f : Field} (allowed : f.allowedOn = .identity)
include allowed

/-- A reader that reads nothing but good values, and says what is wrong with the others. -/
theorem reports_read {α : Type} {read : AttributeValue → Except AttributeError α} {v : AttributeValue}
    (failed : ∀ e, read v = .error e → Misread (f.name, v) e)
    (good : ∀ t, read v = .ok t → Good f v) : Reports Misread [(f.name, v)] (read v) := by
  apply reports_single failed
  intro t success e misread
  exact misread.not_readable ((readable_iff_good allowed).2 (good t success))

theorem misread_wrongKind {v : AttributeValue} (other : v.kind ≠ f.kind) :
    Misread (f.name, v) (wrongKind f v) :=
  .kind (mem_datasetKinds_iff.2 ⟨f, allowed, rfl, rfl⟩) other

theorem misread_interval (v : AttributeValue) (kind : v.kind = f.kind) (legible : Legible v)
    {e : AttributeError} (failing : interval f.name v.ends.from? v.ends.to? = .error e) :
    Misread (f.name, v) e := by
  obtain ⟨reversed, rfl⟩ := interval_eq_error_iff.1 failing
  exact .interval (mem_datasetKinds_iff.2 ⟨f, allowed, rfl, kind.symm⟩) legible reversed

theorem reports_personName (kind : f.kind = .personName) (v : AttributeValue) :
    Reports Misread [(f.name, v)] (personName f v) := by
  apply reports_read allowed
  · intro e failing
    cases v with
    | personName p =>
      simp only [personName, bind_eq_error_iff] at failing
      obtain failing | ⟨_, _, failing⟩ := failing
      · exact misread_interval allowed (.personName p) kind.symm trivial failing
      · cases failing
    | _ =>
      obtain rfl := Except.error.inj failing
      refine misread_wrongKind allowed fun same => ?_
      rw [kind] at same
      cases same
  · intro t success
    obtain ⟨sound, rfl⟩ := personName_eq_ok_iff.1 success
    exact ⟨kind.symm, sound⟩

theorem reports_address (kind : f.kind = .address) (v : AttributeValue) :
    Reports Misread [(f.name, v)] (address f v) := by
  apply reports_read allowed
  · intro e failing
    cases v with
    | address a =>
      simp only [address, bind_eq_error_iff] at failing
      obtain failing | ⟨_, _, failing⟩ := failing
      · exact misread_interval allowed (.address a) kind.symm trivial failing
      · cases failing
    | _ =>
      obtain rfl := Except.error.inj failing
      refine misread_wrongKind allowed fun same => ?_
      rw [kind] at same
      cases same
  · intro t success
    obtain ⟨sound, rfl⟩ := address_eq_ok_iff.1 success
    exact ⟨kind.symm, sound⟩

theorem reports_gender (kind : f.kind = .gender) (v : AttributeValue) :
    Reports Misread [(f.name, v)] (gender f v) := by
  apply reports_read allowed
  · intro e failing
    cases v with
    | gender g =>
      have expected := mem_datasetKinds_iff.2 ⟨f, allowed, rfl, kind⟩
      simp only [gender, bind_eq_error_iff, genderOf_eq_error_iff, genderOf_eq_ok_iff] at failing
      obtain ⟨unknown, rfl⟩ | ⟨x, named, failing | ⟨_, _, failing⟩⟩ := failing
      · refine .gender expected fun legible => ?_
        obtain ⟨x, named⟩ := mem_genderNames_iff.1 legible
        exact unknown x named
      · exact misread_interval allowed (.gender g) kind.symm (mem_genderNames_iff.2 ⟨x, named⟩) failing
      · cases failing
    | _ =>
      obtain rfl := Except.error.inj failing
      refine misread_wrongKind allowed fun same => ?_
      rw [kind] at same
      cases same
  · intro t success
    obtain ⟨sound, raw, rfl, -⟩ := gender_eq_ok_iff.1 success
    exact ⟨kind.symm, sound⟩

theorem reports_date (kind : f.kind = .date) (v : AttributeValue) :
    Reports Misread [(f.name, v)] (date f v) := by
  apply reports_read allowed
  · intro e failing
    cases v with
    | date d =>
      have expected := mem_datasetKinds_iff.2 ⟨f, allowed, rfl, kind⟩
      simp only [date, bind_eq_error_iff, dateOf_eq_error_iff, dateOf_eq_ok_iff] at failing
      obtain ⟨unreadable, rfl⟩ | ⟨x, read, failing | ⟨_, _, failing⟩⟩ := failing
      · refine .date expected fun legible => ?_
        obtain ⟨x, read⟩ := legible
        exact unreadable x read
      · exact misread_interval allowed (.date d) kind.symm ⟨x, read⟩ failing
      · cases failing
    | _ =>
      obtain rfl := Except.error.inj failing
      refine misread_wrongKind allowed fun same => ?_
      rw [kind] at same
      cases same
  · intro t success
    obtain ⟨sound, raw, rfl, -⟩ := date_eq_ok_iff.1 success
    exact ⟨kind.symm, sound⟩

end Reading

section Attributes

variable {f : Field} (allowed : f.allowedOn = .identity) {a : Attribute} (name : f.name = a.name)
  {α : Type} {read : AttributeValue → Except AttributeError α}
  (each : ∀ v, Reports Misread [(f.name, v)] (read v))
include allowed name each

theorem reports_firstValue (single : f.singleValued = true) (before : Option α) :
    Reports Misread (relevantOf a) (firstValue read before a.values) := by
  have chosen := (mem_singleNames_iff allowed).2 single
  rw [relevantOf, if_pos (inDataset_iff.2 ⟨f, allowed, name⟩), if_pos (name ▸ chosen)]
  cases a.values with
  | nil => exact reports_ok before (List.forall_mem_nil _)
  | cons v rest => exact name ▸ (each v).map_answer some

theorem reports_allValues (list : f.singleValued = false) (before : List α) :
    Reports Misread (relevantOf a) (allValues read before a.values) := by
  have several : f.name ∉ singleNames := by
    rw [mem_singleNames_iff allowed]
    exact ne_true_of_eq_false list
  rw [relevantOf, if_pos (inDataset_iff.2 ⟨f, allowed, name⟩), if_neg (name ▸ several), ← name]
  exact (reports_mapM each a.values).map_answer (before ++ ·)

end Attributes

/-! ## What gathering reports -/

/-- An attribute is refused with what is wrong with the first of its relevant values that cannot be
read, whatever was gathered before. -/
theorem reports_add (g : Gathered) (a : Attribute) : Reports Misread (relevantOf a) (g.add a) := by
  cases member : inDataset a with
  | false =>
    rw [relevantOf_of_not_inDataset member, add_of_not_inDataset member]
    exact reports_ok g (List.forall_mem_nil _)
  | true =>
    obtain ⟨f, allowed, name⟩ := inDataset_iff.1 member
    unfold Gathered.add
    rw [Field.ofName?_eq_some_iff.2 name]
    cases f with
    | firstName =>
      exact (reports_firstValue allowed name (reports_personName allowed rfl) rfl g.firstName).map_answer _
    | middleName =>
      exact (reports_firstValue allowed name (reports_personName allowed rfl) rfl g.middleNames).map_answer _
    | surname =>
      exact (reports_allValues allowed name (reports_personName allowed rfl) rfl g.surnames).map_answer _
    | gender =>
      exact (reports_firstValue allowed name (reports_gender allowed rfl) rfl g.gender).map_answer _
    | dateOfBirth =>
      exact (reports_firstValue allowed name (reports_date allowed rfl) rfl g.dateOfBirth).map_answer _
    | currentAddress =>
      exact (reports_allValues allowed name (reports_address allowed rfl) rfl g.currentAddresses).map_answer _
    | previousAddress =>
      exact (reports_allValues allowed name (reports_address allowed rfl) rfl g.previousAddresses).map_answer _
    | ipAddress => cases allowed

/-- **Gathering fails with what is wrong with the first relevant value that cannot be read.** -/
theorem reports_gather (g : Gathered) (attributes : List Attribute) :
    Reports Misread (relevant attributes) (gather g attributes) := by
  induction attributes generalizing g with
  | nil => exact reports_ok g (List.forall_mem_nil _)
  | cons a rest ih => exact (reports_add g a).bind fun h _ => ih h

/-! ## What gathering gives -/

section Accumulators

variable {α β : Type} {read : AttributeValue → Except AttributeError α}
  {parts : AttributeValue → β → Prop} {write : α → β}

/-- Values that were read have no other parts than those of what was read from them. -/
theorem eq_of_forall₂_parts (reads : ∀ v t, read v = .ok t ↔ Sound v ∧ parts v (write t))
    {values : List AttributeValue} {ts us : List α}
    (given : List.Forall₂ (fun v t => read v = .ok t) values ts)
    (same : List.Forall₂ parts values (us.map write)) : ts = us := by
  have unique : Relator.RightUnique fun v t => read v = .ok t := by
    intro v t u first second
    exact Except.ok.inj (first.symm.trans second)
  refine List.right_unique_forall₂' unique given ?_
  simp only [reads] at given ⊢
  rw [List.forall₂_and_left] at given ⊢
  exact ⟨given.1, List.forall₂_map_right_iff.1 same⟩

theorem forall_ordered {validity : α → Validity}
    (ordered : ∀ v t, read v = .ok t → (validity t).Ordered) {values : List AttributeValue} {ts : List α}
    (given : List.Forall₂ (fun v t => read v = .ok t) values ts) : ∀ i ∈ ts.map validity, i.Ordered := by
  induction given with
  | nil => exact List.forall_mem_nil _
  | cons first _ ih => exact List.forall_mem_cons.2 ⟨ordered _ _ first, ih⟩

end Accumulators

theorem toList_injective {α : Type} : Function.Injective (@Option.toList α) :=
  Function.LeftInverse.injective (g := List.head?) fun _ => Option.head?_toList

/-- The parts of a dataset are what the values of some attributes are read as. -/
structure ReadOff (attributes : List Attribute) (d : IdentityDataset) : Prop where
  firstName : List.Forall₂ (fun v t => personName .firstName v = .ok t)
    (lastNamed "MDS_firstname" attributes).toList [d.firstName]
  middleNames : List.Forall₂ (fun v t => personName .middleName v = .ok t)
    (lastNamed "MDS_middlename" attributes).toList d.middleNames.toList
  surnames : List.Forall₂ (fun v t => personName .surname v = .ok t)
    (allNamed "MDS_surname" attributes) d.surnames
  gender : List.Forall₂ (fun v t => Schema.gender .gender v = .ok t)
    (lastNamed "MDS_gender" attributes).toList d.gender.toList
  dateOfBirth : List.Forall₂ (fun v t => date .dateOfBirth v = .ok t)
    (lastNamed "MDS_dateofbirth" attributes).toList [d.dateOfBirth]
  addresses : List.Forall₂ (fun v t => address .currentAddress v = .ok t)
    (allNamed "MDS_currentaddress" attributes ++ allNamed "MDS_previousaddress" attributes) d.addresses

theorem ReadOff.extracted {attributes : List Attribute} {d : IdentityDataset}
    (read : ReadOff attributes d) : Extracted attributes d := by
  have name (f : Field) (v : AttributeValue) (t : Timed String) (read : personName f v = .ok t) :=
    (personName_eq_ok_iff.1 read).2
  constructor
  · exact forall₂_write (name .firstName) read.firstName
  · exact forall₂_write (name .middleName) read.middleNames
  · exact forall₂_write (name .surname) read.surnames
  · exact forall₂_write (fun v t read => (gender_eq_ok_iff.1 read).2) read.gender
  · exact forall₂_write (fun v t read => (date_eq_ok_iff.1 read).2) read.dateOfBirth
  · exact forall₂_write (fun v t read => (address_eq_ok_iff.1 read).2) read.addresses

/-- No reader gives a reversed interval. -/
theorem ReadOff.intervals_ordered {attributes : List Attribute} {d : IdentityDataset}
    (read : ReadOff attributes d) : ∀ i ∈ d.intervals, i.Ordered := by
  have name (f : Field) (v : AttributeValue) (t : Timed String) (read : personName f v = .ok t) :
      t.validity.Ordered := by
    obtain ⟨sound, rfl⟩ := personName_eq_ok_iff.1 read
    exact sound
  have gender (v : AttributeValue) (t : Timed Gender) (read : Schema.gender .gender v = .ok t) :
      t.validity.Ordered := by
    obtain ⟨sound, _, rfl, -⟩ := gender_eq_ok_iff.1 read
    exact sound.1
  have date (v : AttributeValue) (t : Timed Date) (read : Schema.date .dateOfBirth v = .ok t) :
      t.validity.Ordered := by
    obtain ⟨sound, _, rfl, -⟩ := date_eq_ok_iff.1 read
    exact sound.1
  have address (v : AttributeValue) (d : Address) (read : Schema.address .currentAddress v = .ok d) :
      d.validity.Ordered := by
    obtain ⟨sound, rfl⟩ := address_eq_ok_iff.1 read
    exact sound
  simp only [IdentityDataset.intervals, List.forall_mem_append, List.forall_mem_cons]
  refine ⟨⟨⟨⟨?_, ?_⟩, ?_⟩, ?_⟩, ?_, ?_⟩
  · exact forall_ordered (name .firstName) read.firstName _ List.mem_cons_self
  · exact forall_ordered (name .middleName) read.middleNames
  · exact forall_ordered (name .surname) read.surnames
  · exact forall_ordered gender read.gender
  · exact forall_ordered date read.dateOfBirth _ List.mem_cons_self
  · exact forall_ordered address read.addresses

section Gathered

variable {attributes : List Attribute} {g : Gathered} {d : IdentityDataset}
  (gathers : Gathers .nothing attributes g)
include gathers

theorem Gathers.addresses : List.Forall₂ (fun v t => address .currentAddress v = .ok t)
    (allNamed "MDS_currentaddress" attributes ++ allNamed "MDS_previousaddress" attributes)
    (g.currentAddresses ++ g.previousAddresses) := by
  apply List.rel_append gathers.currentAddresses.forall₂
  exact gathers.previousAddresses.forall₂.imp fun v t read =>
    address_eq_ok_iff.2 (address_eq_ok_iff.1 read)

theorem Gathers.readOff (dataset : g.dataset = .ok d) : ReadOff attributes d := by
  obtain ⟨first, birth, firstName, dateOfBirth, rfl⟩ := dataset_eq_ok_iff.1 dataset
  have readFirst := gathers.firstName.forall₂
  rw [firstName] at readFirst
  have readBirth := gathers.dateOfBirth.forall₂
  rw [dateOfBirth] at readBirth
  exact ⟨readFirst, gathers.middleNames.forall₂, gathers.surnames.forall₂, gathers.gender.forall₂,
    readBirth, gathers.addresses⟩

theorem Gathers.dataset_eq (extracted : Extracted attributes d) : g.dataset = .ok d := by
  have name (f : Field) (v : AttributeValue) (t : Timed String) :
      personName f v = .ok t ↔ Sound v ∧ NameOf v t.canonical := personName_eq_ok_iff
  have firstName : g.firstName.toList = [d.firstName] :=
    eq_of_forall₂_parts (name .firstName) gathers.firstName.forall₂ extracted.firstName
  have middleNames : g.middleNames.toList = d.middleNames.toList :=
    eq_of_forall₂_parts (name .middleName) gathers.middleNames.forall₂ extracted.middleNames
  have surnames : g.surnames = d.surnames :=
    eq_of_forall₂_parts (name .surname) gathers.surnames.forall₂ extracted.surnames
  have gender : g.gender.toList = d.gender.toList :=
    eq_of_forall₂_parts (fun v t => gender_eq_ok_iff) gathers.gender.forall₂ extracted.gender
  have dateOfBirth : g.dateOfBirth.toList = [d.dateOfBirth] :=
    eq_of_forall₂_parts (fun v t => date_eq_ok_iff) gathers.dateOfBirth.forall₂ extracted.dateOfBirth
  have addresses : g.currentAddresses ++ g.previousAddresses = d.addresses :=
    eq_of_forall₂_parts (fun v t => address_eq_ok_iff) gathers.addresses extracted.addresses
  rw [Option.toList_eq_singleton_iff] at firstName dateOfBirth
  refine dataset_eq_ok_iff.2 ⟨d.firstName, d.dateOfBirth, firstName, dateOfBirth, ?_⟩
  rw [surnames, addresses, toList_injective middleNames, toList_injective gender]

end Gathered

/-! ## Required names -/

theorem hasValue_iff {f : Field} {attributes : List Attribute} :
    HasValue f.name attributes ↔ firstsOf f attributes ≠ [] := by
  rw [firstsOf, Ne, List.filterMap_eq_nil_iff]
  simp [HasValue, named]

theorem Gathers.firstName_eq_none_iff {attributes : List Attribute} {g : Gathered}
    (gathers : Gathers .nothing attributes g) :
    g.firstName = none ↔ ¬HasValue "MDS_firstname" attributes := by
  rw [gathers.firstName.eq_none_iff, ← not_ne_iff]
  exact not_congr hasValue_iff.symm

theorem Gathers.dateOfBirth_eq_none_iff {attributes : List Attribute} {g : Gathered}
    (gathers : Gathers .nothing attributes g) :
    g.dateOfBirth = none ↔ ¬HasValue "MDS_dateofbirth" attributes := by
  rw [gathers.dateOfBirth.eq_none_iff, ← not_ne_iff]
  exact not_congr hasValue_iff.symm

/-! ## What extraction answers -/

section Outcome

variable {a : Assertion}

/-- Gathering succeeds when all relevant values can be read. -/
theorem exists_gathers_iff {attributes : List Attribute} :
    (∃ g, Gathers .nothing attributes g) ↔ ∀ r ∈ relevant attributes, Readable r := by
  rw [← forall_not_misread_iff, ← (reports_gather .nothing attributes).ok_iff]
  simp only [gather_eq_ok_iff]

theorem exists_extract_iff :
    (∃ d, extract a = .ok d) ↔ (∀ r ∈ relevant a.attributes, Readable r) ∧
      HasValue "MDS_firstname" a.attributes ∧ HasValue "MDS_dateofbirth" a.attributes := by
  simp only [extract_eq_ok_iff]
  constructor
  · rintro ⟨d, g, gathers, dataset⟩
    obtain ⟨named, born⟩ := exists_dataset_iff.1 ⟨d, dataset⟩
    rw [Ne, gathers.firstName_eq_none_iff, not_not] at named
    rw [Ne, gathers.dateOfBirth_eq_none_iff, not_not] at born
    exact ⟨exists_gathers_iff.1 ⟨g, gathers⟩, named, born⟩
  · rintro ⟨readable, named, born⟩
    obtain ⟨g, gathers⟩ := exists_gathers_iff.2 readable
    rw [← not_not (a := HasValue _ _), ← gathers.firstName_eq_none_iff] at named
    rw [← not_not (a := HasValue _ _), ← gathers.dateOfBirth_eq_none_iff] at born
    obtain ⟨d, dataset⟩ := exists_dataset_iff.2 ⟨named, born⟩
    exact ⟨d, g, gathers, dataset⟩

theorem extract_eq_ok_iff_extracted {d : IdentityDataset} :
    extract a = .ok d ↔ (∀ r ∈ relevant a.attributes, Readable r) ∧ Extracted a.attributes d := by
  rw [extract_eq_ok_iff]
  constructor
  · rintro ⟨g, gathers, dataset⟩
    exact ⟨exists_gathers_iff.1 ⟨g, gathers⟩, (gathers.readOff dataset).extracted⟩
  · rintro ⟨readable, extracted⟩
    obtain ⟨g, gathers⟩ := exists_gathers_iff.2 readable
    exact ⟨g, gathers, gathers.dataset_eq extracted⟩

theorem extract_eq_error_iff {e : AttributeError} :
    extract a = .error e ↔ Reported a.attributes e := by
  rw [extract, bind_eq_error_iff,
    (reports_gather .nothing a.attributes).error_iff fun _ _ _ misread => misread.unique]
  simp only [gather_eq_ok_iff, dataset_eq_error_iff]
  constructor
  · rintro (⟨r, first⟩ | ⟨g, gathers, failing⟩)
    · exact .value first
    · have readable := exists_gathers_iff.1 ⟨g, gathers⟩
      rw [Ne, gathers.firstName_eq_none_iff, gathers.dateOfBirth_eq_none_iff, not_not] at failing
      obtain ⟨absent, error⟩ | ⟨present, absent, error⟩ := failing
      · exact .firstName readable absent error
      · exact .dateOfBirth readable present absent error
  · rintro (⟨first⟩ | ⟨readable, absent, error⟩ | ⟨readable, present, absent, error⟩)
    · exact .inl ⟨_, first⟩
    · obtain ⟨g, gathers⟩ := exists_gathers_iff.2 readable
      exact .inr ⟨g, gathers, .inl ⟨gathers.firstName_eq_none_iff.2 absent, error⟩⟩
    · obtain ⟨g, gathers⟩ := exists_gathers_iff.2 readable
      refine .inr ⟨g, gathers, .inr ⟨?_, gathers.dateOfBirth_eq_none_iff.2 absent, error⟩⟩
      exact fun missing => gathers.firstName_eq_none_iff.1 missing present

end Outcome

/-- **Extraction follows the attributes, checked or not.** -/
theorem extract_follows_attributes (a : Assertion) :
    ((∃ d, extract a = .ok d) ↔ (∀ r ∈ relevant a.attributes, Readable r) ∧
        HasValue "MDS_firstname" a.attributes ∧ HasValue "MDS_dateofbirth" a.attributes) ∧
      (∀ d, extract a = .ok d ↔
        (∀ r ∈ relevant a.attributes, Readable r) ∧ Extracted a.attributes d) ∧
      (∀ d, extract a = .ok d → ∀ i ∈ d.intervals, i.Ordered) ∧
      (∀ others, others.filter inDataset = a.attributes.filter inDataset →
        extract (withAttributes a others) = extract a) ∧
      ∀ e, extract a = .error e ↔ Reported a.attributes e := by
  refine ⟨exists_extract_iff, fun d => extract_eq_ok_iff_extracted, ?_, ?_, fun e =>
    extract_eq_error_iff⟩
  · intro d extracted
    obtain ⟨g, gathers, dataset⟩ := extract_eq_ok_iff.1 extracted
    exact (gathers.readOff dataset).intervals_ordered
  · intro others same
    show (gather .nothing others >>= Gathered.dataset) = extract a
    rw [← gather_filter_inDataset, same, gather_filter_inDataset]
    rfl

/-- An assertion that no check would accept: names repeat, one has no value, another too many, and one is
unknown. -/
def renamed : Assertion :=
  { Assertion.empty with
    attributeStatement := some ⟨[
      ⟨"MDS_firstname", [.personName ⟨"Ann", true, none, none⟩]⟩,
      ⟨"MDS_surname", [.personName ⟨"Smith", true, none, some turn⟩]⟩,
      ⟨"MDS_nickname", [.ipAddress "Annie"]⟩,
      ⟨"MDS_previousaddress", [.address ⟨["1 Old Road"], none, none, none, false, none, some turn⟩]⟩,
      ⟨"MDS_firstname",
        [.personName ⟨"Anna", false, some turn, none⟩, .gender ⟨"FEMALE", true, none, none⟩]⟩,
      ⟨"MDS_surname", [.personName ⟨"Jones", true, some turn, none⟩]⟩,
      ⟨"MDS_currentaddress", [.address ⟨["2 New Road"], none, none, none, true, some turn, none⟩]⟩,
      ⟨"MDS_firstname", []⟩,
      ⟨"MDS_dateofbirth", [.date ⟨"1970-02-28", true, none, none⟩]⟩]⟩ }

/-- The same, behind a first name that is no name. -/
def misnamed : Assertion :=
  withAttributes renamed
    (⟨"MDS_firstname", [.gender ⟨"FEMALE", true, none, none⟩]⟩ :: renamed.attributes)

/-- The dataset has the last first name, all surnames, and the current address first. What is wrong with
the value in front is reported, although later names would have taken its place. -/
theorem extract_follows_attributes_renamed :
    (∃ d, extract renamed = .ok d ∧ d.firstName.value = "Anna" ∧
      d.surnames.map Timed.value = ["Smith", "Jones"] ∧
      d.addresses.map Address.lines = [["2 New Road"], ["1 Old Road"]] ∧
      Extracted renamed.attributes d ∧ ∀ i ∈ d.intervals, i.Ordered) ∧
    Reported misnamed.attributes (.unexpectedValueKind "MDS_firstname" .personName .gender) := by
  obtain ⟨-, gives, ordered, -, -⟩ := extract_follows_attributes renamed
  obtain ⟨-, -, -, -, fails⟩ := extract_follows_attributes misnamed
  refine ⟨⟨_, rfl, rfl, rfl, rfl, ?_, ordered _ rfl⟩, (fails _).1 rfl⟩
  exact ((gives _).1 rfl).2

end RelyingParty.Schema
