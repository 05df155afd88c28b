import RelyingParty.Schema.Basic

/-!
# Checking attributes against the schema

Attributes are checked one after the other, and the required ones looked for at the end. The first
violation is the one reported.
-/

namespace RelyingParty.Schema
set_option autoImplicit false

/-- Checks one value of an attribute: its kind, then its interval, then what its text stands for. -/
def checkValue (f : Field) (v : AttributeValue) : Except AttributeError Unit :=
  if v.kind ≠ f.kind then .error (.unexpectedValueKind f.name f.kind v.kind)
  else
    match v with
    | .personName p => do
      let _ ← interval f.name p.from? p.to?
    | .gender g => do
      let _ ← interval f.name g.from? g.to?
      let _ ← genderOf f.name g.value
    | .date d => do
      let _ ← interval f.name d.from? d.to?
      let _ ← dateOf f.name d.value
    | .address a => do
      let _ ← interval f.name a.from? a.to?
    | .ipAddress _ => .ok ()

/-- Checks the values of an attribute in order. -/
def checkValues (f : Field) : List AttributeValue → Except AttributeError Unit
  | [] => .ok ()
  | v :: rest => do
    checkValue f v
    checkValues f rest

/-- Checks an attribute of an assertion with a role, after the attributes `seen`, and says which
attribute of the schema it is. -/
def checkAttribute (role : AssertionRole) (seen : List Field) (a : Attribute) :
    Except AttributeError Field := do
  let some f := Field.ofName? a.name | throw (.unknownAttribute a.name)
  if f.allowedOn ≠ role then throw (.unexpectedAttribute a.name role)
  if f ∈ seen then throw (.duplicateAttribute a.name)
  if a.values = [] then throw (.emptyAttribute a.name)
  if f.singleValued ∧ a.values.length > 1 then throw (.tooManyValues a.name)
  checkValues f a.values
  return f

/-- Checks attributes in order, and collects which attributes of the schema they are. -/
def checkAttributes (role : AssertionRole) (seen : List Field) :
    List Attribute → Except AttributeError (List Field)
  | [] => .ok seen
  | a :: rest => do
    let f ← checkAttribute role seen a
    checkAttributes role (f :: seen) rest

/-- Checks that the required attributes were seen. -/
def checkRequired (seen : List Field) : List Field → Except AttributeError Unit
  | [] => .ok ()
  | f :: rest => if f ∈ seen then checkRequired seen rest else .error (.missingAttribute f.name)

/-- Checks the attribute statement of an assertion. Only an authentication assertion may have none. -/
def check (a : Assertion) : Except AttributeError Unit :=
  match a.attributeStatement, a.role with
  | none, .identity => .error .missingAttributeStatement
  | none, .authn => .ok ()
  | some s, role => do
    let seen ← checkAttributes role [] s.attributes
    match role with
    | .identity => checkRequired seen Field.requiredFields
    | .authn => return ()

end RelyingParty.Schema
