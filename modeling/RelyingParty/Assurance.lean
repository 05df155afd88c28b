import RelyingParty.Json.Record
import RelyingParty.Text.Case

/-!
# Levels of assurance

The strength of an authentication, in four ordered levels. Each level has one authentication context,
the identifier by which an assertion claims it, and one name, by which settings and answers show it.
-/

namespace RelyingParty
set_option autoImplicit false

/-- A level of assurance, from the weakest to the strongest. -/
inductive AssuranceLevel where
  | level1
  | level2
  | level3
  | level4
deriving DecidableEq

/-- A claimed authentication context that is no level's. -/
structure UnsupportedLevel where
  /-- The context as it was claimed. -/
  raw : String
deriving DecidableEq

/-- The wording of an unsupported context. -/
def UnsupportedLevel.message (e : UnsupportedLevel) : String :=
  "Level of assurance '" ++ e.raw ++ "' is not supported"

namespace AssuranceLevel

/-- All levels, the weakest first. -/
def all : List AssuranceLevel := [level1, level2, level3, level4]

/-- The rank of a level, from one. -/
def rank : AssuranceLevel → Nat
  | level1 => 1
  | level2 => 2
  | level3 => 3
  | level4 => 4

/-- Whether a level is at least as strong as a minimum. -/
def meets (level minimum : AssuranceLevel) : Bool :=
  decide (minimum.rank ≤ level.rank)

/-- The name of a level. -/
def name : AssuranceLevel → String
  | level1 => "LEVEL_1"
  | level2 => "LEVEL_2"
  | level3 => "LEVEL_3"
  | level4 => "LEVEL_4"

/-- The authentication context that claims a level. -/
def context : AssuranceLevel → String
  | level1 => "urn:uk:gov:cabinet-office:tc:saml:authn-context:level1"
  | level2 => "urn:uk:gov:cabinet-office:tc:saml:authn-context:level2"
  | level3 => "urn:uk:gov:cabinet-office:tc:saml:authn-context:level3"
  | level4 => "urn:uk:gov:cabinet-office:tc:saml:authn-context:level4"

/-- The level that a context claims. -/
def resolve (context : String) : Except UnsupportedLevel AssuranceLevel :=
  match all.find? fun level => level.context == context with
  | some level => .ok level
  | none => .error ⟨context⟩

/-- The level with a name, regardless of case. -/
def ofName? (s : String) : Option AssuranceLevel :=
  all.find? fun level => level.name == Text.upper s

/-- The wording for a text that names no level. -/
def unknownName (s : String) : String :=
  "Unknown level of assurance: " ++ s

/-- A level as a document shows it. -/
def toJson (level : AssuranceLevel) : Json := .string level.name

/-- The level that a document shows. -/
def ofJson? : Json.Decoder AssuranceLevel := Json.constant? name all

end AssuranceLevel
end RelyingParty
