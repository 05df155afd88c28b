import RelyingParty.Signing.Keys
import RelyingParty.Trust.Role
import RelyingParty.Trust.Table

/-!
# Trust material

The keys trusted for each role. A role has a ring from its first key on, and a ring keeps each key in the slot
that is named for its identifier, so a key is always found under its own.
-/

namespace RelyingParty.Trust
set_option autoImplicit false
open Signing

/-- Keys in slots, each named for the identifier of the key in it. -/
@[ext]
structure KeyRing where
  slots : Table String PublicKey
  own : ∀ slot ∈ slots.entries, slot.2.kid = slot.1

namespace KeyRing

/-- The ring without keys. -/
def empty : KeyRing := ⟨.empty, nofun⟩

/-- The ring with one more key, in place of any with its identifier. -/
def insert (ring : KeyRing) (key : PublicKey) : KeyRing where
  slots := ring.slots.put key.kid key
  own := by
    intro slot member
    rcases Table.mem_entries_put.1 member with ⟨earlier, -⟩ | rfl
    · exact ring.own slot earlier
    · rfl

theorem slots_insert_ne_nil (ring : KeyRing) (key : PublicKey) : (ring.insert key).slots.entries ≠ [] :=
  List.append_ne_nil_of_right_ne_nil _ (List.cons_ne_nil _ _)

end KeyRing

/-- The rings of the roles that keys are trusted for. -/
@[ext]
structure Material where
  rings : Table SignerRole KeyRing
  stocked : ∀ entry ∈ rings.entries, entry.2.slots.entries ≠ []

namespace Material

/-- Material that trusts no key. -/
def empty : Material := ⟨.empty, nofun⟩

/-- The key trusted for a role under an identifier. -/
def key? (m : Material) (role : SignerRole) (kid : String) : Option PublicKey :=
  (m.rings.get? role).bind fun ring => ring.slots.get? kid

/-- The number of keys trusted for a role. -/
def keyCount (m : Material) (role : SignerRole) : Nat :=
  (m.rings.get? role).elim 0 fun ring => ring.slots.size

/-- The identifiers of the keys trusted for a role. -/
def kids (m : Material) (role : SignerRole) : List String :=
  (m.rings.get? role).elim [] fun ring => ring.slots.names

/-- The material with one more key trusted for a role. -/
def withKey (m : Material) (role : SignerRole) (key : PublicKey) : Material where
  rings := m.rings.put role (((m.rings.get? role).getD .empty).insert key)
  stocked := by
    intro entry member
    rcases Table.mem_entries_put.1 member with ⟨earlier, -⟩ | rfl
    · exact m.stocked entry earlier
    · exact KeyRing.slots_insert_ne_nil _ _

/-- The material of a list of keys, added in order. -/
def ofKeys (keys : List (SignerRole × PublicKey)) : Material :=
  keys.foldl (fun m k => m.withKey k.1 k.2) empty

end Material
end RelyingParty.Trust
