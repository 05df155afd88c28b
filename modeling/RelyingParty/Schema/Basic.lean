import RelyingParty.Assertion.Basic
import RelyingParty.Calendar.DateText
import RelyingParty.Dataset.Basic

/-!
# The attribute schema

The attributes that assertions may carry: on which assertions, with values of which kind, and how
many. The matching dataset belongs on identity assertions, and the address of the subject's device on
authentication assertions.
-/

namespace RelyingParty.Schema
set_option autoImplicit false
open Calendar

/-- An attribute of the schema. -/
inductive Field where
  | firstName
  | middleName
  | surname
  | gender
  | dateOfBirth
  | currentAddress
  | previousAddress
  | ipAddress
deriving DecidableEq

namespace Field

/-- All attributes of the schema. -/
def all : List Field :=
  [firstName, middleName, surname, gender, dateOfBirth, currentAddress, previousAddress, ipAddress]

/-- The name of an attribute on assertions. -/
def name : Field → String
  | firstName => "MDS_firstname"
  | middleName => "MDS_middlename"
  | surname => "MDS_surname"
  | gender => "MDS_gender"
  | dateOfBirth => "MDS_dateofbirth"
  | currentAddress => "MDS_currentaddress"
  | previousAddress => "MDS_previousaddress"
  | ipAddress => "TXN_IPaddress"

/-- The attribute with a name. -/
def ofName? (s : String) : Option Field :=
  all.find? fun f => f.name == s

/-- The kind of its values. -/
def kind : Field → ValueKind
  | firstName | middleName | surname => .personName
  | gender => .gender
  | dateOfBirth => .date
  | currentAddress | previousAddress => .address
  | ipAddress => .ipAddress

/-- Whether it has exactly one value. -/
def singleValued : Field → Bool
  | surname | currentAddress | previousAddress => false
  | _ => true

/-- The assertions that it may stand on. -/
def allowedOn : Field → AssertionRole
  | ipAddress => .authn
  | _ => .identity

/-- The attributes that an identity assertion has to carry. -/
def requiredFields : List Field := [firstName, dateOfBirth]

end Field

/-- Why the text of a value does not stand for what its kind says. -/
inductive ValueFault where
  | notADate
  | unknownGender (raw : String)
deriving DecidableEq

/-- The wording of a value fault. -/
def ValueFault.message : ValueFault → String
  | .notADate => "expected a %Y-%m-%d date"
  | .unknownGender raw => Gender.unknownName raw

/-- Why the attributes of an assertion do not follow the schema. -/
inductive AttributeError where
  | missingAttributeStatement
  | unknownAttribute (name : String)
  | unexpectedAttribute (name : String) (role : AssertionRole)
  | duplicateAttribute (name : String)
  | emptyAttribute (name : String)
  | tooManyValues (name : String)
  | unexpectedValueKind (name : String) (expected actual : ValueKind)
  | invalidValue (name : String) (fault : ValueFault)
  | invalidInterval (name : String)
  | missingAttribute (name : String)
deriving DecidableEq

/-- The wording of an attribute error. -/
def AttributeError.message : AttributeError → String
  | .missingAttributeStatement => "Identity assertion has no attribute statement"
  | .unknownAttribute name => "Unknown attribute: " ++ name
  | .unexpectedAttribute name role =>
    "Attribute '" ++ name ++ "' is not allowed on an " ++ role.word ++ " assertion"
  | .duplicateAttribute name => "Attribute '" ++ name ++ "' appears more than once"
  | .emptyAttribute name => "Attribute '" ++ name ++ "' has no values"
  | .tooManyValues name => "Attribute '" ++ name ++ "' must have exactly one value"
  | .unexpectedValueKind name expected actual =>
    "Attribute '" ++ name ++ "' expected a " ++ expected.name ++ " value, got " ++ actual.name
  | .invalidValue name fault =>
    "Attribute '" ++ name ++ "' has an invalid value: " ++ fault.message
  | .invalidInterval name =>
    "Attribute '" ++ name ++ "' has a validity interval that ends before it starts"
  | .missingAttribute name => "Required attribute is missing: " ++ name

/-- The interval between the ends of a value of an attribute. -/
def interval (name : String) (start stop : Option Instant) : Except AttributeError Validity :=
  (Validity.new start stop).mapError fun _ => .invalidInterval name

/-- The date that the text of a value stands for. -/
def dateOf (name raw : String) : Except AttributeError Date :=
  match Date.ofCompactText? raw with
  | some d => .ok d
  | none => .error (.invalidValue name .notADate)

/-- The gender that the text of a value stands for. -/
def genderOf (name raw : String) : Except AttributeError Gender :=
  match Gender.ofName? raw with
  | some g => .ok g
  | none => .error (.invalidValue name (.unknownGender raw))

end RelyingParty.Schema
