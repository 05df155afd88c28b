import RelyingParty.Json.Reader

/-!
# Records in documents

A record is read from an object, in which unknown names are ignored and known names may not repeat,
or from an array that lists its fields in order. A field is required, optional (absent or `null`
reads as nothing), or has a default. An array may stop early only before fields with a default.
-/

namespace RelyingParty.Json
set_option autoImplicit false

/-- A reader of values. -/
abbrev Decoder (α : Type) := Json → Option α

/-- The value that the text of a document holds. -/
def decodeText? {α : Type} (read : Decoder α) (text : String) : Option α :=
  (ofText? text).bind read

/-- The text of a string. -/
def string? : Decoder String
  | .string text => some text
  | _ => none

/-- A truth value. -/
def bool? : Decoder Bool
  | .bool value => some value
  | _ => none

/-- A whole number below `bound`. -/
def natural? (bound : Nat) : Decoder Nat
  | .int (.ofNat n) => if n < bound then some n else none
  | _ => none

/-- A whole number in `[-bound, bound)`. -/
def integer? (bound : Nat) : Decoder Int
  | .int i => if -(bound : Int) ≤ i ∧ i < bound then some i else none
  | _ => none

/-- A byte. -/
def byte? : Decoder UInt8 := fun json => (natural? (Nat.pow 2 8) json).map UInt8.ofNat

/-- A natural number of 64 bits. -/
def uint64? : Decoder UInt64 := fun json => (natural? (Nat.pow 2 64) json).map UInt64.ofNat

/-- A whole number of 64 bits. -/
def int64? : Decoder Int64 := fun json => (integer? (Nat.pow 2 63) json).map Int64.ofInt

/-- A list, each element read by `read`. -/
def list? {α : Type} (read : Decoder α) : Decoder (List α)
  | .array elements => elements.mapM read
  | _ => none

/-- A named constant: its name, or an object with that name as its one member and no value. -/
def name? : Decoder String
  | .string name => some name
  | .object [(name, .null)] => some name
  | _ => none

/-- One of a list of constants, by name. -/
def constant? {α : Type} (name : α → String) (all : List α) : Decoder α :=
  fun json => (name? json).bind fun text => all.find? fun a => name a == text

/-- The fields of a record as a document gives them. -/
structure Record where
  /-- Whether the fields came in an array. -/
  positional : Bool
  /-- The value given for a field. -/
  find : String → Option Json

namespace Record

/-- The record of an object with the known field names `names`. -/
def ofMembers? (names : List String) (members : List (String × Json)) : Option Record :=
  if ((members.map Prod.fst).filter (names.contains ·)).Nodup then
    some ⟨false, fun name => members.lookup name⟩
  else none

/-- The record of an array that lists the fields `names` in order. -/
def ofElements? (names : List String) (elements : List Json) : Option Record :=
  if elements.length ≤ names.length then
    some ⟨true, fun name => (names.zip elements).lookup name⟩
  else none

/-- The record in a document, in either form. -/
def ofJson? (names : List String) : Decoder Record
  | .object members => ofMembers? names members
  | .array elements => ofElements? names elements
  | _ => none

variable {α : Type} (record : Record) (name : String) (read : Decoder α)

/-- A field that has to be there. -/
def required : Option α :=
  (record.find name).bind read

/-- A field that may be absent from an object, or `null`. -/
def optional : Option (Option α) :=
  match record.find name with
  | none => if record.positional then none else some none
  | some .null => some none
  | some value => (read value).map some

/-- A field that is `default` when absent. -/
def withDefault (default : α) : Option α :=
  match record.find name with
  | none => some default
  | some value => read value

/-- A field that is nothing when absent or `null`, in either form of record. -/
def optionalWithDefault : Option (Option α) :=
  match record.find name with
  | none => some none
  | some .null => some none
  | some value => (read value).map some

end Record

/-- A member that is written only when there is a value. -/
def member? {α : Type} (name : String) (write : α → Json) : Option α → List (String × Json)
  | none => []
  | some a => [(name, write a)]

/-- The value, or `null` when there is none. -/
def orNull {α : Type} (write : α → Json) : Option α → Json
  | none => .null
  | some a => write a

/-- A list of texts. -/
def strings (texts : List String) : Json :=
  .array (texts.map .string)

end RelyingParty.Json
