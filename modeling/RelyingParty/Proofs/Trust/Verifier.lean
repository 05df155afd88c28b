import Mathlib.Data.List.Induction
import RelyingParty.Proofs.Success
import RelyingParty.Trust.Verifier

/-!
# What a verifier against trust material accepts

Material finds the last key that was added for a role under an identifier. A signature is accepted when
it verifies under the key that is found for its own identifier.
-/

namespace RelyingParty.Trust
set_option autoImplicit false
open Signing

namespace Material

variable {m : Material} {role : SignerRole} {kid : String} {key : PublicKey}

theorem key?_eq_some_iff :
    m.key? role kid = some key ↔ ∃ ring, m.rings.get? role = some ring ∧ ring.slots.get? kid = some key :=
  Option.bind_eq_some_iff

/-- A key is found under its own identifier. -/
theorem kid_of_key? (found : m.key? role kid = some key) : key.kid = kid := by
  obtain ⟨ring, -, slot⟩ := key?_eq_some_iff.1 found
  exact ring.own _ (Table.get?_eq_some_iff.1 slot)

theorem key?_withKey (m : Material) (added role : SignerRole) (key : PublicKey) (kid : String) :
    (m.withKey added key).key? role kid =
      if added = role ∧ key.kid = kid then some key else m.key? role kid := by
  rw [key?, withKey, Table.get?_put]
  by_cases same : added = role
  · obtain rfl := same
    rw [if_pos rfl, Option.bind_some, KeyRing.insert, Table.get?_put]
    by_cases named : key.kid = kid
    · rw [if_pos named, if_pos ⟨rfl, named⟩]
    · rw [if_neg named, if_neg (fun both => named both.2), key?]
      cases m.rings.get? added <;> rfl
  · rw [if_neg same, if_neg (fun both => same both.1), key?]

/-- A key is the last one added for a role under its identifier. -/
def LastAdded (keys : List (SignerRole × PublicKey)) (role : SignerRole) (key : PublicKey) : Prop :=
  ∃ before after, keys = before ++ (role, key) :: after ∧ ∀ k ∈ after, ¬(k.1 = role ∧ k.2.kid = key.kid)

theorem lastAdded_append_single {keys : List (SignerRole × PublicKey)} {k : SignerRole × PublicKey}
    {role : SignerRole} {key : PublicKey} :
    LastAdded (keys ++ [k]) role key ↔
      k = (role, key) ∨ (¬(k.1 = role ∧ k.2.kid = key.kid) ∧ LastAdded keys role key) := by
  constructor
  · rintro ⟨before, after, split, others⟩
    rcases List.eq_nil_or_concat after with rfl | ⟨rest, last, rfl⟩
    · exact .inl (List.append_inj_right' split rfl |> List.head_eq_of_cons_eq)
    · rw [List.concat_eq_append] at split others
      rw [← List.cons_append, ← List.append_assoc] at split
      obtain ⟨rfl, same⟩ := List.append_inj' split rfl
      obtain rfl := List.head_eq_of_cons_eq same
      rw [List.forall_mem_append] at others
      exact .inr ⟨others.2 _ (List.mem_singleton.2 rfl), before, rest, rfl, others.1⟩
  · rintro (rfl | ⟨other, before, after, rfl, others⟩)
    · exact ⟨keys, [], rfl, nofun⟩
    · refine ⟨before, after ++ [k], List.append_assoc _ _ _, ?_⟩
      rw [List.forall_mem_append, List.forall_mem_singleton]
      exact ⟨others, other⟩

theorem ofKeys_append_single (keys : List (SignerRole × PublicKey)) (role : SignerRole) (key : PublicKey) :
    ofKeys (keys ++ [(role, key)]) = (ofKeys keys).withKey role key := by
  rw [ofKeys, List.foldl_append]
  rfl

/-- **Material finds the last key added** for a role under an identifier. -/
theorem key?_ofKeys_eq_some_iff {keys : List (SignerRole × PublicKey)} {role : SignerRole}
    {kid : String} {key : PublicKey} :
    (ofKeys keys).key? role kid = some key ↔ LastAdded keys role key ∧ key.kid = kid := by
  induction keys using List.reverseRecOn with
  | nil =>
    constructor
    · cases role <;> exact nofun
    · rintro ⟨⟨before, after, split, -⟩, -⟩
      cases before <;> cases split
  | append_singleton keys k ih =>
    obtain ⟨added, new⟩ := k
    rw [ofKeys_append_single, key?_withKey, lastAdded_append_single]
    by_cases replaced : added = role ∧ new.kid = kid
    · obtain ⟨rfl, rfl⟩ := replaced
      rw [if_pos ⟨rfl, rfl⟩]
      constructor
      · intro same
        obtain rfl := Option.some.inj same
        exact ⟨.inl rfl, rfl⟩
      · rintro ⟨same | ⟨other, -⟩, kid⟩
        · exact congrArg (some ∘ Prod.snd) same
        · exact absurd ⟨rfl, kid.symm⟩ other
    · rw [if_neg replaced, ih]
      constructor
      · rintro ⟨last, rfl⟩
        exact ⟨.inr ⟨replaced, last⟩, rfl⟩
      · rintro ⟨same | ⟨-, last⟩, rfl⟩
        · obtain ⟨rfl, rfl⟩ := Prod.mk.inj same
          exact absurd ⟨rfl, rfl⟩ replaced
        · exact ⟨last, rfl⟩

theorem keyCount_ne_zero (found : m.key? role kid = some key) : m.keyCount role ≠ 0 := by
  obtain ⟨ring, stocked, slot⟩ := key?_eq_some_iff.1 found
  rw [keyCount, stocked]
  exact Nat.ne_of_gt (List.length_pos_of_mem (Table.get?_eq_some_iff.1 slot))

/-- A signature is accepted when it verifies under the key found for its identifier. -/
theorem verify_eq_ok_iff {scheme : Scheme} {m : Material} {a : Assertion} {role : SignerRole} :
    m.verify scheme a role = .ok () ↔
      ∃ s key, a.signature = some s ∧ m.key? role s.keyId = some key ∧
        scheme.verify key.bytes a.signedBytes s.value = .ok () := by
  have checked {s : AssertionSignature} {key : PublicKey} (signed : a.signature = some s)
      (found : m.key? role s.keyId = some key) :
      m.verify scheme a role = .ok () ↔ scheme.verify key.bytes a.signedBytes s.value = .ok () := by
    have checked := key.checkAssertion_of_kid scheme signed (kid_of_key? found).symm
    simp only [Material.verify, signed, if_neg (keyCount_ne_zero found), found, checked, mapError_eq_ok_iff]
  constructor
  · intro accepted
    cases signed : a.signature with
    | none =>
      rw [Material.verify, signed] at accepted
      cases accepted
    | some s =>
      cases found : m.key? role s.keyId with
      | none =>
        simp only [Material.verify, signed, found] at accepted
        split at accepted <;> cases accepted
      | some key => exact ⟨s, key, rfl, found, (checked signed found).1 accepted⟩
  · rintro ⟨s, key, signed, found, verifies⟩
    exact (checked signed found).2 verifies

end Material
end RelyingParty.Trust
