import Mathlib.Data.List.Dedup
import RelyingParty.Proofs.Trust.Verifier
import RelyingParty.Trust.Registry

/-!
# The trust registry is a finite map

Whatever is done to a registry, its material is that of the keys supplied since the last replacement, added
in order. So the registry answers as the finite map of the last key supplied for each role and identifier,
and every snapshot goes on answering as the registry did when it was taken.
-/

namespace RelyingParty.Trust
set_option autoImplicit false
open Signing

/-! ## The keys of some material -/

namespace Material

theorem mem_kids_iff {m : Material} {role : SignerRole} {kid : String} :
    kid ∈ m.kids role ↔ ∃ key, m.key? role kid = some key := by
  rw [kids, key?]
  cases m.rings.get? role with
  | none => simp
  | some ring => exact Table.mem_names_iff

theorem nodup_kids (m : Material) (role : SignerRole) : (m.kids role).Nodup := by
  rw [kids]
  cases m.rings.get? role with
  | none => exact List.nodup_nil
  | some ring => exact ring.slots.distinct

theorem keyCount_eq_length_kids (m : Material) (role : SignerRole) :
    m.keyCount role = (m.kids role).length := by
  rw [keyCount, kids]
  cases m.rings.get? role with
  | none => rfl
  | some ring => exact (List.length_map _).symm

/-- Of the keys added for a role under an identifier, one is the last. -/
theorem exists_lastAdded_iff {keys : List (SignerRole × PublicKey)} {role : SignerRole} {kid : String} :
    (∃ key, LastAdded keys role key ∧ key.kid = kid) ↔ ∃ key, (role, key) ∈ keys ∧ key.kid = kid := by
  constructor
  · rintro ⟨key, ⟨before, after, rfl, -⟩, named⟩
    exact ⟨key, by simp, named⟩
  · rintro ⟨key, member, named⟩
    induction keys using List.reverseRecOn with
    | nil => cases member
    | append_singleton keys k ih =>
      by_cases replaced : k.1 = role ∧ k.2.kid = kid
      · obtain ⟨rfl, rfl⟩ := replaced
        exact ⟨k.2, lastAdded_append_single.2 (.inl rfl), rfl⟩
      · have earlier : (role, key) ∈ keys := by
          rcases List.mem_append.1 member with earlier | last
          · exact earlier
          · obtain rfl := List.mem_singleton.1 last
            exact absurd ⟨rfl, named⟩ replaced
        obtain ⟨found, last, same⟩ := ih earlier
        exact ⟨found, lastAdded_append_single.2 (.inr ⟨same ▸ replaced, last⟩), same⟩

/-- The identifiers of the keys in a list that are for a role. -/
def kidsFor (keys : List (SignerRole × PublicKey)) (role : SignerRole) : List String :=
  (keys.filter fun k => k.1 == role).map fun k => k.2.kid

theorem mem_kidsFor_iff {keys : List (SignerRole × PublicKey)} {role : SignerRole} {kid : String} :
    kid ∈ kidsFor keys role ↔ ∃ key, (role, key) ∈ keys ∧ key.kid = kid := by
  simp only [kidsFor, List.mem_map, List.mem_filter, beq_iff_eq]
  constructor
  · rintro ⟨⟨_, key⟩, ⟨member, rfl⟩, named⟩
    exact ⟨key, member, named⟩
  · rintro ⟨key, member, named⟩
    exact ⟨(role, key), ⟨member, rfl⟩, named⟩

/-- Material answers as the finite map that takes a role and an identifier to the last of some keys for
them. -/
structure AnswersAs (m : Material) (keys : List (SignerRole × PublicKey)) : Prop where
  /-- Every key is stored under its own identifier. -/
  own : ∀ role ring, m.rings.get? role = some ring → ∀ slot ∈ ring.slots.entries, slot.2.kid = slot.1
  key?_eq_some_iff : ∀ role kid key, m.key? role kid = some key ↔ LastAdded keys role key ∧ key.kid = kid
  mem_kids_iff : ∀ role kid, kid ∈ m.kids role ↔ kid ∈ kidsFor keys role
  nodup_kids : ∀ role, (m.kids role).Nodup
  /-- The keys trusted for a role are as many as there are different identifiers. -/
  keyCount_eq : ∀ role, m.keyCount role = (kidsFor keys role).dedup.length

theorem answersAs_ofKeys (keys : List (SignerRole × PublicKey)) : (ofKeys keys).AnswersAs keys := by
  have kids (role : SignerRole) (kid : String) :
      kid ∈ (ofKeys keys).kids role ↔ kid ∈ kidsFor keys role := by
    rw [mem_kids_iff, mem_kidsFor_iff, ← exists_lastAdded_iff]
    simp only [key?_ofKeys_eq_some_iff]
  refine ⟨fun _ ring _ => ring.own, fun _ _ _ => key?_ofKeys_eq_some_iff, kids,
    (ofKeys keys).nodup_kids, ?_⟩
  intro role
  have same : ((ofKeys keys).kids role).Perm (kidsFor keys role).dedup := by
    rw [List.perm_ext_iff_of_nodup ((ofKeys keys).nodup_kids role) (List.nodup_dedup _)]
    intro kid
    rw [kids, List.mem_dedup]
  rw [keyCount_eq_length_kids, same.length_eq]

end Material

/-! ## All material is that of some keys -/

/-- A name that comes up once in a longer list of entries is a new one. -/
theorem Table.notMem_names_of_distinct {κ α : Type} {t : Table κ α} {e : κ × α} {rest : List (κ × α)}
    (distinct : ((t.entries ++ e :: rest).map Prod.fst).Nodup) : e.1 ∉ t.names := by
  rw [List.map_append, List.map_cons, List.nodup_append] at distinct
  intro member
  exact distinct.2.2 _ member _ List.mem_cons_self rfl

namespace KeyRing

/-- The keys of a ring. -/
def keys (ring : KeyRing) : List PublicKey := ring.slots.entries.map Prod.snd

/-- Keys with new identifiers come into slots behind those that are there, in order. -/
theorem entries_foldl_insert (ring : KeyRing) {slots : List (String × PublicKey)}
    (own : ∀ slot ∈ slots, slot.2.kid = slot.1)
    (distinct : ((ring.slots.entries ++ slots).map Prod.fst).Nodup) :
    ((slots.map Prod.snd).foldl insert ring).slots.entries = ring.slots.entries ++ slots := by
  induction slots generalizing ring with
  | nil => rw [List.append_nil]; rfl
  | cons slot rest ih =>
    obtain ⟨kid, key⟩ := slot
    obtain ⟨named, others⟩ := List.forall_mem_cons.1 own
    obtain rfl : key.kid = kid := named
    have grown : (ring.insert key).slots.entries = ring.slots.entries ++ [(key.kid, key)] :=
      Table.entries_put_of_notMem (Table.notMem_names_of_distinct distinct)
    rw [List.append_cons, ← grown] at distinct ⊢
    exact ih (ring.insert key) others distinct

/-- A ring is the one that its keys make. -/
theorem foldl_insert_keys (ring : KeyRing) : ring.keys.foldl insert empty = ring := by
  ext1
  ext1
  exact entries_foldl_insert empty ring.own ring.slots.distinct

end KeyRing

namespace Material

/-- The material with more keys trusted for their roles. -/
def withKeys (m : Material) (keys : List (SignerRole × PublicKey)) : Material :=
  keys.foldl (fun m k => m.withKey k.1 k.2) m

/-- The keys trusted, each with its role. -/
def keys (m : Material) : List (SignerRole × PublicKey) :=
  m.rings.entries.flatMap fun entry => entry.2.keys.map fun key => (entry.1, key)

/-- Keys of one role change the ring of this role only. -/
theorem rings_withKeys_cons (m : Material) (role : SignerRole) (key : PublicKey) (rest : List PublicKey) :
    (m.withKeys ((key :: rest).map fun key => (role, key))).rings =
      m.rings.put role ((key :: rest).foldl KeyRing.insert ((m.rings.get? role).getD .empty)) := by
  induction rest generalizing m key with
  | nil => rfl
  | cons later rest ih =>
    have first : (m.withKeys ((key :: later :: rest).map fun key => (role, key))) =
        (m.withKey role key).withKeys ((later :: rest).map fun key => (role, key)) := rfl
    have filled : (m.withKey role key).rings =
        m.rings.put role (((m.rings.get? role).getD .empty).insert key) := rfl
    rw [first, ih, filled, Table.put_put, Table.get?_put, if_pos rfl, Option.getD_some, ← List.foldl_cons]

/-- The keys of a ring that is not there yet bring it in behind the others. -/
theorem entries_withKeys_ring {m : Material} {role : SignerRole} {ring : KeyRing}
    (new : role ∉ m.rings.names) (stocked : ring.slots.entries ≠ []) :
    (m.withKeys (ring.keys.map fun key => (role, key))).rings.entries = m.rings.entries ++ [(role, ring)] := by
  have none : m.rings.get? role = none := Table.get?_eq_none_iff.2 new
  have all : ring.keys.foldl KeyRing.insert ((m.rings.get? role).getD .empty) = ring := by
    rw [none]
    exact ring.foldl_insert_keys
  obtain ⟨key, rest, split⟩ := List.exists_cons_of_ne_nil (mt List.map_eq_nil_iff.1 stocked : ring.keys ≠ [])
  rw [split] at all ⊢
  rw [rings_withKeys_cons, all, Table.entries_put_of_notMem new]

/-- The keys of rings that are not there yet bring them in behind the others, in order. -/
theorem entries_withKeys_rings (m : Material) {rings : List (SignerRole × KeyRing)}
    (stocked : ∀ entry ∈ rings, entry.2.slots.entries ≠ [])
    (distinct : ((m.rings.entries ++ rings).map Prod.fst).Nodup) :
    (m.withKeys (rings.flatMap fun entry => entry.2.keys.map fun key => (entry.1, key))).rings.entries =
      m.rings.entries ++ rings := by
  induction rings generalizing m with
  | nil => rw [List.append_nil]; rfl
  | cons entry rest ih =>
    obtain ⟨role, ring⟩ := entry
    rw [List.forall_mem_cons] at stocked
    have grown := entries_withKeys_ring (Table.notMem_names_of_distinct distinct) stocked.1
    rw [List.append_cons, ← grown] at distinct ⊢
    rw [List.flatMap_cons, withKeys, List.foldl_append]
    exact ih _ stocked.2 distinct

/-- Material is the one that its keys make. -/
theorem ofKeys_keys (m : Material) : ofKeys m.keys = m := by
  ext1
  ext1
  exact entries_withKeys_rings empty m.stocked m.rings.distinct

end Material

/-! ## Steps and runs -/

/-- What can be done with a registry: swap in the material of some keys, trust one more key, keep a
snapshot. -/
inductive RegistryStep where
  | replace (keys : List (SignerRole × PublicKey))
  | trust (role : SignerRole) (key : PublicKey)
  | snapshot

/-- A registry, and the snapshots of it that were kept, the oldest first. -/
structure Holding where
  registry : Registry
  held : List Snapshot

namespace Holding

/-- A new registry with the material of some keys. -/
def start (initial : List (SignerRole × PublicKey)) : Holding := ⟨.new (.ofKeys initial), []⟩

/-- The registry and the kept snapshots after a step. -/
def step (h : Holding) : RegistryStep → Holding
  | .replace keys => { h with registry := h.registry.apply (.replace (.ofKeys keys)) }
  | .trust role key => { h with registry := h.registry.apply (.trust role key) }
  | .snapshot => { h with held := h.held ++ [h.registry.snapshot] }

/-- The registry and the kept snapshots after some steps. -/
def run (h : Holding) (steps : List RegistryStep) : Holding := steps.foldl step h

end Holding

/-- The keys supplied once a step is made, when those before it are given: a replacement forgets them. -/
def RegistryStep.supply (keys : List (SignerRole × PublicKey)) : RegistryStep → List (SignerRole × PublicKey)
  | .replace others => others
  | .trust role key => keys ++ [(role, key)]
  | .snapshot => keys

/-- The keys supplied by the last replacement among some steps, or from the start, and since then. -/
def supplied (initial : List (SignerRole × PublicKey)) (steps : List RegistryStep) :
    List (SignerRole × PublicKey) :=
  steps.foldl RegistryStep.supply initial

namespace Holding

variable {h : Holding} {keys : List (SignerRole × PublicKey)}

/-- A step leaves the material of the keys that are supplied after it. -/
theorem material_step (now : h.registry.current.material = .ofKeys keys) (x : RegistryStep) :
    (h.step x).registry.current.material = .ofKeys (x.supply keys) := by
  cases x with
  | replace others => rfl
  | trust role key =>
    have grown : (h.step (.trust role key)).registry.current.material =
        h.registry.current.material.withKey role key := rfl
    rw [grown, now, RegistryStep.supply, Material.ofKeys_append_single]
  | snapshot => exact now

theorem material_run (now : h.registry.current.material = .ofKeys keys) (steps : List RegistryStep) :
    (h.run steps).registry.current.material = .ofKeys (supplied keys steps) := by
  induction steps generalizing h keys with
  | nil => exact now
  | cons x rest ih => exact ih (material_step now x)

/-- A step keeps the snapshots that are held, in their places. -/
theorem prefix_held_step (x : RegistryStep) : h.held <+: (h.step x).held := by
  cases x with
  | replace others => exact List.prefix_refl _
  | trust role key => exact List.prefix_refl _
  | snapshot => exact List.prefix_append _ _

theorem prefix_held_run (steps : List RegistryStep) : h.held <+: (h.run steps).held := by
  induction steps generalizing h with
  | nil => exact List.prefix_refl _
  | cons x rest ih => exact (prefix_held_step x).trans ih

/-- A snapshot is found in its place after any later steps, as it was taken. -/
theorem getElem?_held_run (steps later : List RegistryStep) :
    (h.run (steps ++ .snapshot :: later)).held[(h.run steps).held.length]? =
      some (h.run steps).registry.snapshot := by
  have split : h.run (steps ++ .snapshot :: later) = ((h.run steps).step .snapshot).run later :=
    List.foldl_append
  obtain ⟨more, grown⟩ := prefix_held_run (h := (h.run steps).step .snapshot) later
  rw [split, ← grown]
  simp [step]

end Holding

/-- **The trust registry is a finite map.** After any steps its material takes a role and an identifier to the
last key supplied for them since the last replacement, and every key is stored under its own identifier. All
that the registry tells of its keys agrees with that, and one more key changes no other entry. A snapshot
that is kept holds the material of the moment when it was taken, and still answers as that map after any
later steps. This is said of the material of lists of keys, which all material is. -/
theorem registry_is_map :
    (∀ m : Material, ∃ keys, Material.ofKeys keys = m) ∧
      ∀ (initial : List (SignerRole × PublicKey)) (steps : List RegistryStep),
        let h := (Holding.start initial).run steps
        h.registry.current.material.AnswersAs (supplied initial steps) ∧
          (∀ role kid, h.registry.isTrusted role kid = true ↔
            kid ∈ Material.kidsFor (supplied initial steps) role) ∧
          (∀ role, (h.registry.kids role).Nodup ∧
            ∀ kid, kid ∈ h.registry.kids role ↔ kid ∈ Material.kidsFor (supplied initial steps) role) ∧
          (∀ added key role kid, (h.registry.trustKey added key).snapshot.material.key? role kid =
            if added = role ∧ key.kid = kid then some key else h.registry.snapshot.material.key? role kid) ∧
          ∀ later, ∃ s,
            ((Holding.start initial).run (steps ++ .snapshot :: later)).held[h.held.length]? = some s ∧
              s = h.registry.snapshot ∧ s.material = h.registry.current.material ∧
              s.material.AnswersAs (supplied initial steps) := by
  refine ⟨fun m => ⟨m.keys, m.ofKeys_keys⟩, ?_⟩
  intro initial steps h
  have material : h.registry.current.material = .ofKeys (supplied initial steps) :=
    Holding.material_run rfl steps
  have answers : h.registry.current.material.AnswersAs (supplied initial steps) :=
    material ▸ Material.answersAs_ofKeys _
  have handed : h.registry.snapshot.material = h.registry.current.material := rfl
  refine ⟨answers, ?_, ?_, fun added key role kid => Material.key?_withKey _ added role key kid, ?_⟩
  · intro role kid
    rw [← answers.mem_kids_iff, Material.mem_kids_iff, Registry.isTrusted, handed]
    exact Option.isSome_iff_exists
  · intro role
    rw [Registry.kids, handed]
    exact ⟨answers.nodup_kids role, answers.mem_kids_iff role⟩
  · intro later
    exact ⟨h.registry.snapshot, Holding.getElem?_held_run steps later, rfl, handed, handed ▸ answers⟩

end RelyingParty.Trust
