import RelyingParty.Trust.Material

/-!
# The trust registry

The registry holds the current snapshot of trust material. A change never alters a snapshot: it puts a
new one in place, so that a snapshot taken earlier stays as it was. Who verifies signatures takes a snapshot
each time, from a registry or from material that never changes.
-/

namespace RelyingParty.Trust
set_option autoImplicit false
open Signing

/-- Trust material that is handed out. The serial number stands for the identity of what is shared: it counts
the changes before, so two snapshots of one registry have the same number when neither was replaced by the
other. When the material was put together is left out, since nothing goes by it. -/
structure Snapshot where
  serial : Nat
  material : Material

/-- The holder of the current snapshot. -/
structure Registry where
  current : Snapshot

/-- A change to the registry. -/
inductive Change where
  | replace (material : Material)
  | trust (role : SignerRole) (key : PublicKey)

namespace Registry

/-- A registry that serves some material. -/
def new (material : Material) : Registry := ⟨⟨0, material⟩⟩

/-- A registry that trusts nothing. -/
def empty : Registry := new .empty

/-- Hands out the current snapshot. -/
def snapshot (r : Registry) : Snapshot := r.current

/-- The registry with all material swapped. -/
def replace (r : Registry) (material : Material) : Registry :=
  ⟨⟨r.current.serial + 1, material⟩⟩

/-- The registry with one key added to the current material. -/
def trustKey (r : Registry) (role : SignerRole) (key : PublicKey) : Registry :=
  r.replace (r.current.material.withKey role key)

/-- The registry after a change. -/
def apply (r : Registry) : Change → Registry
  | .replace material => r.replace material
  | .trust role key => r.trustKey role key

/-- Whether a key is trusted for a role. -/
def isTrusted (r : Registry) (role : SignerRole) (kid : String) : Bool :=
  (r.snapshot.material.key? role kid).isSome

/-- The identifiers of the keys trusted for a role. -/
def kids (r : Registry) (role : SignerRole) : List String := r.snapshot.material.kids role

end Registry

/-- Where a verifier takes its snapshots from. -/
inductive TrustSource where
  | registry (r : Registry)
  | fixed (material : Material)

namespace TrustSource

/-- Hands out a snapshot. -/
def snapshot : TrustSource → Snapshot
  | .registry r => r.snapshot
  | .fixed material => ⟨0, material⟩

/-- The source after a change, which fixed material takes no notice of. -/
def change : TrustSource → Change → TrustSource
  | .registry r, c => .registry (r.apply c)
  | .fixed material, _ => .fixed material

end TrustSource
end RelyingParty.Trust
