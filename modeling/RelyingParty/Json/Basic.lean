import RelyingParty.Json.Precision

/-!
# Documents

A `Json` value is a document as its reader sees it: whole numbers of 64 bits are kept apart from other
numbers, and the members of an object stay in order, repeated names included. `decimal m e` is the
number `m · 10 ^ e`, where `m` is what 64 bits hold of the digits. A string whose escapes form no text, or an object with such a name, is well formed but
stands for nothing; it is kept as `garbled`, which no reader of a value accepts.
-/

namespace RelyingParty
set_option autoImplicit false

/-- A document. -/
inductive Json where
  | null
  | bool (value : Bool)
  | int (value : Int)
  | decimal (mantissa exponent : Int)
  | string (text : String)
  | array (elements : List Json)
  | object (members : List (String × Json))
  | garbled
deriving Inhabited

namespace Json

mutual

/-- Whether a value can be set aside and read later: it stands for something, its numbers lie in the
range of double precision, and it nests at most `room` levels deep. -/
def fits (room : Nat) : Json → Bool
  | .null | .bool _ | .int _ | .string _ => true
  | .decimal mantissa exponent => inRange mantissa exponent
  | .array elements => decide (0 < room) && elementsFit (room - 1) elements
  | .object members => decide (0 < room) && membersFit (room - 1) members
  | .garbled => false

/-- Whether every element can be set aside. -/
def elementsFit (room : Nat) : List Json → Bool
  | [] => true
  | element :: rest => fits room element && elementsFit room rest

/-- Whether the value of every member can be set aside. -/
def membersFit (room : Nat) : List (String × Json) → Bool
  | [] => true
  | (_, value) :: rest => fits room value && membersFit room rest

end

/-- The levels of nesting that a document may have where values are set aside. -/
def maxNesting : Nat := 127

end Json
end RelyingParty
