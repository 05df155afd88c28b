import RelyingParty.Json.Record
import RelyingParty.Text.Case

/-!
# Signer roles

Who is expected to have signed an assertion. Keys are trusted for one role at a time.
-/

namespace RelyingParty.Trust
set_option autoImplicit false

/-- An identity provider of the federation, or the hub itself. -/
inductive SignerRole where
  | idp
  | hub
deriving DecidableEq

namespace SignerRole

/-- Both roles. -/
def all : List SignerRole := [idp, hub]

/-- The name of a role. -/
def name : SignerRole → String
  | idp => "idp"
  | hub => "hub"

/-- The role with a name, regardless of case. -/
def ofName? (s : String) : Option SignerRole :=
  all.find? fun r => r.name == Text.lower s

/-- The wording for a text that names no role. -/
def unknownName (s : String) : String :=
  "Unknown signer role: " ++ s

/-- A role in a document. -/
def toJson (r : SignerRole) : Json := .string r.name

/-- The role that a document holds. -/
def ofJson? : Json.Decoder SignerRole := Json.constant? name all

end SignerRole
end RelyingParty.Trust
