import RelyingParty.Schema.Basic

/-!
# Extracting the dataset

The dataset of an identity assertion, from its attributes in order. A single-valued attribute gives its
first value, and the last such attribute counts. Current addresses come before previous ones, whatever
their order on the assertion.
-/

namespace RelyingParty.Schema
set_option autoImplicit false
open Calendar

/-- A value of another kind than an attribute has. -/
def wrongKind (f : Field) (v : AttributeValue) : AttributeError :=
  .unexpectedValueKind f.name f.kind v.kind

/-- The name in a value. -/
def personName (f : Field) : AttributeValue → Except AttributeError (Timed String)
  | .personName p => do return ⟨p.value, p.verified, ← interval f.name p.from? p.to?⟩
  | v => .error (wrongKind f v)

/-- The gender in a value. -/
def gender (f : Field) : AttributeValue → Except AttributeError (Timed Gender)
  | .gender g => do
    let value ← genderOf f.name g.value
    return ⟨value, g.verified, ← interval f.name g.from? g.to?⟩
  | v => .error (wrongKind f v)

/-- The date in a value. -/
def date (f : Field) : AttributeValue → Except AttributeError (Timed Date)
  | .date d => do
    let value ← dateOf f.name d.value
    return ⟨value, d.verified, ← interval f.name d.from? d.to?⟩
  | v => .error (wrongKind f v)

/-- The address in a value. -/
def address (f : Field) : AttributeValue → Except AttributeError Address
  | .address a => do
    let validity ← interval f.name a.from? a.to?
    return ⟨a.verified, validity, a.postCode, a.internationalPostCode, a.uprn, a.lines⟩
  | v => .error (wrongKind f v)

/-- What the attributes so far have given. -/
structure Gathered where
  firstName : Option (Timed String)
  middleNames : Option (Timed String)
  surnames : List (Timed String)
  gender : Option (Timed Gender)
  dateOfBirth : Option (Timed Date)
  currentAddresses : List Address
  previousAddresses : List Address

/-- Nothing gathered yet. -/
def Gathered.nothing : Gathered := ⟨none, none, [], none, none, [], []⟩

/-- The first value as `read`, or what was there before when there is no value. -/
def firstValue {α : Type} (read : AttributeValue → Except AttributeError α) (before : Option α) :
    List AttributeValue → Except AttributeError (Option α)
  | [] => .ok before
  | v :: _ => (read v).map some

/-- All values as `read`, after what was there before. -/
def allValues {α : Type} (read : AttributeValue → Except AttributeError α) (before : List α)
    (values : List AttributeValue) : Except AttributeError (List α) :=
  (values.mapM read).map (before ++ ·)

/-- What is gathered after one more attribute; attributes outside the dataset give nothing. -/
def Gathered.add (g : Gathered) (a : Attribute) : Except AttributeError Gathered :=
  match Field.ofName? a.name with
  | some .firstName => do
    return { g with firstName := ← firstValue (personName .firstName) g.firstName a.values }
  | some .middleName => do
    return { g with middleNames := ← firstValue (personName .middleName) g.middleNames a.values }
  | some .surname => do
    return { g with surnames := ← allValues (personName .surname) g.surnames a.values }
  | some .gender => do
    return { g with gender := ← firstValue (Schema.gender .gender) g.gender a.values }
  | some .dateOfBirth => do
    return { g with dateOfBirth := ← firstValue (date .dateOfBirth) g.dateOfBirth a.values }
  | some .currentAddress => do
    return { g with
      currentAddresses := ← allValues (address .currentAddress) g.currentAddresses a.values }
  | some .previousAddress => do
    return { g with
      previousAddresses := ← allValues (address .previousAddress) g.previousAddresses a.values }
  | some .ipAddress | none => .ok g

/-- What a list of attributes gives. -/
def gather : Gathered → List Attribute → Except AttributeError Gathered
  | g, [] => .ok g
  | g, a :: rest => do gather (← g.add a) rest

/-- The dataset of what was gathered, when the required attributes gave something. -/
def Gathered.dataset (g : Gathered) : Except AttributeError IdentityDataset :=
  match g.firstName, g.dateOfBirth with
  | none, _ => .error (.missingAttribute Field.firstName.name)
  | some _, none => .error (.missingAttribute Field.dateOfBirth.name)
  | some firstName, some dateOfBirth =>
    .ok {
      firstName
      middleNames := g.middleNames
      surnames := g.surnames
      gender := g.gender
      dateOfBirth
      addresses := g.currentAddresses ++ g.previousAddresses }

/-- The dataset that the attributes of an assertion give. -/
def extract (a : Assertion) : Except AttributeError IdentityDataset := do
  (← gather .nothing a.attributes).dataset

end RelyingParty.Schema
