import Mathlib.Tactic.MkIffOfInductiveProp
import RelyingParty.Proofs.Schema.Basic
import RelyingParty.Schema.Extract

/-!
# What attributes give together

Gathering goes through the attributes one after the other, and keeps seven accumulators. Each of them
depends only on the attributes with one name: single values come from the last of these that has any,
lists grow by all values.
-/

namespace RelyingParty.Schema
set_option autoImplicit false

/-- The attributes with a name of the schema, in order. -/
def named (f : Field) (attributes : List Attribute) : List Attribute :=
  attributes.filter fun a => a.name == f.name

/-- All values of the attributes with a name, in order. -/
def valuesOf (f : Field) (attributes : List Attribute) : List AttributeValue :=
  (named f attributes).flatMap Attribute.values

/-- The first value of each attribute with a name. -/
def firstsOf (f : Field) (attributes : List Attribute) : List AttributeValue :=
  (named f attributes).filterMap fun a => a.values.head?

theorem valuesOf_append (f : Field) (xs ys : List Attribute) :
    valuesOf f (xs ++ ys) = valuesOf f xs ++ valuesOf f ys := by
  rw [valuesOf, named, List.filter_append, List.flatMap_append]
  rfl

theorem firstsOf_append (f : Field) (xs ys : List Attribute) :
    firstsOf f (xs ++ ys) = firstsOf f xs ++ firstsOf f ys := by
  rw [firstsOf, named, List.filter_append, List.filterMap_append]
  rfl

theorem named_single (f : Field) (a : Attribute) :
    named f [a] = if Field.ofName? a.name = some f then [a] else [] := by
  by_cases known : Field.ofName? a.name = some f
  · have same := Field.ofName?_eq_some_iff.1 known
    rw [if_pos known, named, List.filter_cons_of_pos (by simp [same]), List.filter_nil]
  · have other : a.name ≠ f.name := fun same => known (Field.ofName?_eq_some_iff.2 same.symm)
    rw [if_neg known, named, List.filter_cons_of_neg (by simp [other]), List.filter_nil]

theorem valuesOf_single (f : Field) (a : Attribute) :
    valuesOf f [a] = if Field.ofName? a.name = some f then a.values else [] := by
  rw [valuesOf, named_single]
  split
  · exact List.flatMap_singleton _ _
  · rfl

theorem firstsOf_single (f : Field) (a : Attribute) :
    firstsOf f [a] = if Field.ofName? a.name = some f then a.values.head?.toList else [] := by
  rw [firstsOf, named_single]
  split
  · cases first : a.values.head? <;> simp [first]
  · rfl

section Accumulators

variable {α : Type} {read : AttributeValue → Except AttributeError α}

/-- The last of some values, as `read`, takes the place of what was there before. -/
def Replaces (read : AttributeValue → Except AttributeError α) (values : List AttributeValue)
    (before after : Option α) : Prop :=
  ∃ ts, values.mapM read = .ok ts ∧ ts.getLast?.or before = after

/-- All of some values, as `read`, follow what was there before. -/
def Extends (read : AttributeValue → Except AttributeError α) (values : List AttributeValue)
    (before after : List α) : Prop :=
  ∃ ts, values.mapM read = .ok ts ∧ before ++ ts = after

theorem replaces_nil {before after : Option α} : Replaces read [] before after ↔ before = after := by
  constructor
  · rintro ⟨ts, together, rfl⟩
    obtain rfl := Except.ok.inj together
    rfl
  · rintro rfl
    exact ⟨[], rfl, rfl⟩

theorem extends_nil {before after : List α} : Extends read [] before after ↔ before = after := by
  constructor
  · rintro ⟨ts, together, rfl⟩
    obtain rfl := Except.ok.inj together
    exact (List.append_nil before).symm
  · rintro rfl
    exact ⟨[], rfl, List.append_nil before⟩

theorem replaces_append {xs ys : List AttributeValue} {before after : Option α} :
    Replaces read (xs ++ ys) before after ↔
      ∃ between, Replaces read xs before between ∧ Replaces read ys between after := by
  unfold Replaces
  simp only [List.mapM_append, bind_eq_ok_iff]
  constructor
  · rintro ⟨_, ⟨us, first, vs, second, joined⟩, rfl⟩
    obtain rfl := Except.ok.inj joined
    refine ⟨_, ⟨us, first, rfl⟩, vs, second, ?_⟩
    rw [List.getLast?_append, Option.or_assoc]
  · rintro ⟨_, ⟨us, first, rfl⟩, vs, second, rfl⟩
    refine ⟨us ++ vs, ⟨us, first, vs, second, rfl⟩, ?_⟩
    rw [List.getLast?_append, Option.or_assoc]

theorem extends_append {xs ys : List AttributeValue} {before after : List α} :
    Extends read (xs ++ ys) before after ↔
      ∃ between, Extends read xs before between ∧ Extends read ys between after := by
  unfold Extends
  simp only [List.mapM_append, bind_eq_ok_iff]
  constructor
  · rintro ⟨_, ⟨us, first, vs, second, joined⟩, rfl⟩
    obtain rfl := Except.ok.inj joined
    exact ⟨_, ⟨us, first, rfl⟩, vs, second, List.append_assoc before us vs⟩
  · rintro ⟨_, ⟨us, first, rfl⟩, vs, second, rfl⟩
    exact ⟨us ++ vs, ⟨us, first, vs, second, rfl⟩, (List.append_assoc before us vs).symm⟩

theorem firstValue_eq_ok_iff {values : List AttributeValue} {before after : Option α} :
    firstValue read before values = .ok after ↔ Replaces read values.head?.toList before after := by
  cases values with
  | nil =>
    rw [firstValue, Except.ok.injEq]
    exact replaces_nil.symm
  | cons v rest =>
    rw [firstValue, map_eq_ok_iff]
    constructor
    · rintro ⟨t, first, rfl⟩
      exact ⟨[t], mapM_eq_ok_iff.2 (.cons first .nil), rfl⟩
    · rintro ⟨ts, together, rfl⟩
      obtain ⟨t, _, first, others, rfl⟩ := List.forall₂_cons_left_iff.1 (mapM_eq_ok_iff.1 together)
      obtain rfl := List.forall₂_nil_left_iff.1 others
      exact ⟨t, first, rfl⟩

theorem allValues_eq_ok_iff {values : List AttributeValue} {before after : List α} :
    allValues read before values = .ok after ↔ Extends read values before after := by
  rw [allValues, map_eq_ok_iff]
  rfl

/-- Of some values that were read one after the other, the last one stays. -/
theorem Replaces.forall₂ {values : List AttributeValue} {after : Option α}
    (replaces : Replaces read values none after) :
    List.Forall₂ (fun v t => read v = .ok t) values.getLast?.toList after.toList := by
  obtain ⟨ts, together, rfl⟩ := replaces
  have each := List.rel_reverse (mapM_eq_ok_iff.1 together)
  rw [Option.or_none, List.getLast?_eq_head?_reverse, List.getLast?_eq_head?_reverse]
  generalize values.reverse = vs, ts.reverse = us at each ⊢
  cases each with
  | nil => exact .nil
  | cons last _ => exact .cons last .nil

theorem Replaces.eq_none_iff {values : List AttributeValue} {after : Option α}
    (replaces : Replaces read values none after) : after = none ↔ values = [] := by
  have each := replaces.forall₂
  rw [← List.getLast?_eq_none_iff]
  constructor
  · rintro rfl
    exact Option.toList_eq_nil_iff.1 (List.forall₂_nil_right_iff.1 each)
  · intro nothing
    rw [nothing] at each
    exact Option.toList_eq_nil_iff.1 (List.forall₂_nil_left_iff.1 each)

theorem Extends.forall₂ {values : List AttributeValue} {after : List α}
    (extended : Extends read values [] after) :
    List.Forall₂ (fun v t => read v = .ok t) values after := by
  obtain ⟨ts, together, rfl⟩ := extended
  exact mapM_eq_ok_iff.1 together

end Accumulators

/-- What a list of attributes adds to what was gathered before. -/
@[mk_iff]
structure Gathers (before : Gathered) (attributes : List Attribute) (after : Gathered) : Prop where
  firstName :
    Replaces (personName .firstName) (firstsOf .firstName attributes) before.firstName after.firstName
  middleNames :
    Replaces (personName .middleName) (firstsOf .middleName attributes)
      before.middleNames after.middleNames
  surnames : Extends (personName .surname) (valuesOf .surname attributes) before.surnames after.surnames
  gender : Replaces (Schema.gender .gender) (firstsOf .gender attributes) before.gender after.gender
  dateOfBirth :
    Replaces (date .dateOfBirth) (firstsOf .dateOfBirth attributes) before.dateOfBirth after.dateOfBirth
  currentAddresses : Extends (address .currentAddress) (valuesOf .currentAddress attributes)
    before.currentAddresses after.currentAddresses
  previousAddresses : Extends (address .previousAddress) (valuesOf .previousAddress attributes)
    before.previousAddresses after.previousAddresses

theorem gathers_append {before after : Gathered} {xs ys : List Attribute} :
    Gathers before (xs ++ ys) after ↔
      ∃ between, Gathers before xs between ∧ Gathers between ys after := by
  rw [gathers_iff]
  simp only [firstsOf_append, valuesOf_append, replaces_append, extends_append]
  constructor
  · rintro ⟨⟨_, firstName, firstName'⟩, ⟨_, middleNames, middleNames'⟩, ⟨_, surnames, surnames'⟩,
      ⟨_, gender, gender'⟩, ⟨_, dateOfBirth, dateOfBirth'⟩, ⟨_, current, current'⟩,
      ⟨_, previous, previous'⟩⟩
    exact ⟨⟨_, _, _, _, _, _, _⟩,
      ⟨firstName, middleNames, surnames, gender, dateOfBirth, current, previous⟩,
      firstName', middleNames', surnames', gender', dateOfBirth', current', previous'⟩
  · rintro ⟨between, first, second⟩
    exact ⟨⟨_, first.firstName, second.firstName⟩, ⟨_, first.middleNames, second.middleNames⟩,
      ⟨_, first.surnames, second.surnames⟩, ⟨_, first.gender, second.gender⟩,
      ⟨_, first.dateOfBirth, second.dateOfBirth⟩, ⟨_, first.currentAddresses, second.currentAddresses⟩,
      ⟨_, first.previousAddresses, second.previousAddresses⟩⟩

/-- One attribute changes the accumulator of its name, and no other. -/
theorem add_eq_ok_iff {before after : Gathered} {a : Attribute} :
    before.add a = .ok after ↔ Gathers before [a] after := by
  obtain ⟨_, _, _, _, _, _, _⟩ := before
  obtain ⟨_, _, _, _, _, _, _⟩ := after
  unfold Gathered.add
  simp only [gathers_iff, firstsOf_single, valuesOf_single]
  cases known : Field.ofName? a.name with
  | none => simp [replaces_nil, extends_nil]
  | some f =>
    cases f <;>
      simp [-bind_pure_comp, replaces_nil, extends_nil, bind_eq_ok_iff, firstValue_eq_ok_iff,
        allValues_eq_ok_iff, pure, Except.pure, and_left_comm]

/-- **Attributes gathered one after the other give what they give together.** -/
theorem gather_eq_ok_iff {before after : Gathered} {attributes : List Attribute} :
    gather before attributes = .ok after ↔ Gathers before attributes after := by
  induction attributes generalizing before with
  | nil =>
    obtain ⟨_, _, _, _, _, _, _⟩ := before
    obtain ⟨_, _, _, _, _, _, _⟩ := after
    simp [gather, gathers_iff, firstsOf, valuesOf, named, replaces_nil, extends_nil]
  | cons a rest ih =>
    rw [gather, bind_eq_ok_iff, ← List.singleton_append, gathers_append]
    simp only [add_eq_ok_iff, ih]

theorem dataset_eq_ok_iff {g : Gathered} {d : IdentityDataset} :
    g.dataset = .ok d ↔
      ∃ firstName dateOfBirth, g.firstName = some firstName ∧ g.dateOfBirth = some dateOfBirth ∧
        ⟨firstName, g.middleNames, g.surnames, g.gender, dateOfBirth,
          g.currentAddresses ++ g.previousAddresses⟩ = d := by
  unfold Gathered.dataset
  cases g.firstName with
  | none => simp
  | some firstName =>
    cases g.dateOfBirth with
    | none => simp
    | some dateOfBirth =>
      constructor
      · intro success
        exact ⟨firstName, dateOfBirth, rfl, rfl, Except.ok.inj success⟩
      · rintro ⟨_, _, first, birth, same⟩
        obtain rfl := Option.some.inj first
        obtain rfl := Option.some.inj birth
        exact congrArg Except.ok same

theorem dataset_eq_error_iff {g : Gathered} {e : AttributeError} :
    g.dataset = .error e ↔
      g.firstName = none ∧ e = .missingAttribute "MDS_firstname" ∨
        g.firstName ≠ none ∧ g.dateOfBirth = none ∧ e = .missingAttribute "MDS_dateofbirth" := by
  unfold Gathered.dataset
  cases g.firstName with
  | none => simp [Field.name, eq_comm]
  | some firstName =>
    cases g.dateOfBirth with
    | none => simp [Field.name, eq_comm]
    | some dateOfBirth => simp

theorem exists_dataset_iff {g : Gathered} :
    (∃ d, g.dataset = .ok d) ↔ g.firstName ≠ none ∧ g.dateOfBirth ≠ none := by
  unfold Gathered.dataset
  cases g.firstName with
  | none => simp
  | some firstName =>
    cases g.dateOfBirth with
    | none => simp
    | some dateOfBirth => simp

theorem extract_eq_ok_iff {a : Assertion} {d : IdentityDataset} :
    extract a = .ok d ↔ ∃ g, Gathers .nothing a.attributes g ∧ g.dataset = .ok d := by
  rw [extract, bind_eq_ok_iff]
  simp only [gather_eq_ok_iff]

end RelyingParty.Schema
