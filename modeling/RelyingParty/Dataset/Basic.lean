import RelyingParty.Dataset.Validity

/-!
# Identity datasets

What an identity assertion tells about its subject: names, date of birth, gender and addresses, each
with a verified flag and the interval in which it applied. Lists keep the order of the assertion.
-/

namespace RelyingParty
set_option autoImplicit false
open Calendar

/-- A value with its verified flag and validity. -/
structure Timed (α : Type) where
  value : α
  verified : Bool
  validity : Validity
deriving DecidableEq

/-- A value without ends to its validity. -/
def Timed.current {α : Type} (value : α) (verified : Bool) : Timed α :=
  ⟨value, verified, .unbounded⟩

/-- A gender as a provider asserts it. -/
inductive Gender where
  | female
  | male
  | notSpecified
deriving DecidableEq

namespace Gender

/-- All genders. -/
def all : List Gender := [female, male, notSpecified]

/-- The name of a gender. -/
def name : Gender → String
  | female => "FEMALE"
  | male => "MALE"
  | notSpecified => "NOT_SPECIFIED"

/-- The gender with a name, spelled exactly. -/
def ofName? (s : String) : Option Gender :=
  all.find? fun g => g.name == s

/-- The wording for a text that names no gender. -/
def unknownName (s : String) : String :=
  "Unknown gender: " ++ s

end Gender

/-- A postal address. -/
structure Address where
  verified : Bool
  validity : Validity
  postCode : Option String
  internationalPostCode : Option String
  uprn : Option String
  lines : List String
deriving DecidableEq

/-- An address with lines and no codes. -/
def Address.ofLines (lines : List String) (verified : Bool) (validity : Validity) : Address :=
  ⟨verified, validity, none, none, none, lines⟩

/-- The dataset of a subject. -/
structure IdentityDataset where
  firstName : Timed String
  middleNames : Option (Timed String)
  surnames : List (Timed String)
  gender : Option (Timed Gender)
  dateOfBirth : Timed Date
  addresses : List Address
deriving DecidableEq

/-- The validity intervals of a dataset. -/
def IdentityDataset.intervals (d : IdentityDataset) : List Validity :=
  d.firstName.validity :: d.middleNames.toList.map (·.validity) ++ d.surnames.map (·.validity)
    ++ d.gender.toList.map (·.validity) ++ d.dateOfBirth.validity :: d.addresses.map (·.validity)

end RelyingParty
