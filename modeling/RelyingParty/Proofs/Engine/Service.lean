import RelyingParty.Engine.Service
import RelyingParty.Proofs.Engine.Locality

/-!
# Services remember trust only

A service answers a request from the material that its registry holds at the time. Of the steps before
that, it is the changes of the registry that count. So a key that was taken out vouches for nothing until
it is supplied again.
-/

namespace RelyingParty
set_option autoImplicit false
open Signing Trust

/-! ## Changes of trust material -/

namespace Trust

variable {kid : String}

/-- The material after a change. -/
def Material.after (m : Material) : Change → Material
  | .replace material => material
  | .trust role key => m.withKey role key

theorem Registry.material_apply (r : Registry) (c : Change) :
    (r.apply c).snapshot.material = r.snapshot.material.after c := by
  cases c with
  | replace material => rfl
  | trust role key => rfl

/-- A registry goes through changes as its material does. -/
theorem Registry.material_foldl_apply (r : Registry) (changes : List Change) :
    (changes.foldl Registry.apply r).snapshot.material = changes.foldl Material.after r.snapshot.material := by
  induction changes generalizing r with
  | nil => rfl
  | cons c rest ih => rw [List.foldl_cons, List.foldl_cons, ih, material_apply]

/-- A change brings a key of an identity provider into the material, under an identifier. -/
def Change.Supplies (kid : String) : Change → Prop
  | .replace material => material.key? .idp kid ≠ none
  | .trust role key => role = .idp ∧ key.kid = kid

namespace Material

theorem key?_after {m : Material} {c : Change} (absent : m.key? .idp kid = none)
    (other : ¬c.Supplies kid) : (m.after c).key? .idp kid = none := by
  cases c with
  | replace material => exact not_not.1 other
  | trust role key =>
    have elsewhere : ¬(role = .idp ∧ key.kid = kid) := other
    rw [after, key?_withKey, if_neg elsewhere]
    exact absent

/-- A key that is absent stays so through changes that do not supply it. -/
theorem key?_foldl_after {m : Material} {changes : List Change} (absent : m.key? .idp kid = none)
    (others : ∀ c ∈ changes, ¬c.Supplies kid) :
    (changes.foldl Material.after m).key? .idp kid = none := by
  induction changes generalizing m with
  | nil => exact absent
  | cons c rest ih =>
    rw [List.forall_mem_cons] at others
    exact ih (key?_after absent others.1) others.2

end Material

/-- A signature is checked against what the snapshot holds, wherever it was taken. -/
theorem TrustSource.verify_congr {scheme : Scheme} {t u : TrustSource}
    (same : t.snapshot.material = u.snapshot.material) : t.verify scheme = u.verify scheme := by
  funext a role
  rw [verify, verify, same]

end Trust

/-! ## Runs of a service -/

/-- The change of the registry that a step makes. -/
def Step.change? : Step → Option Change
  | .change c => some c
  | .identify _ _ _ => none

theorem Step.change?_eq_some_iff {x : Step} {c : Change} : x.change? = some c ↔ x = .change c := by
  cases x with
  | change d => simp only [change?, Option.some.injEq, Step.change.injEq]
  | identify bundle expected minimum => simp only [change?, reduceCtorEq]

/-- An identity provider's key with an identifier was taken out of the registry, by a replacement that
lacks it, and no step after that supplied one. -/
def Revoked (kid : String) (steps : List Step) : Prop :=
  ∃ earlier material later, steps = earlier ++ .change (.replace material) :: later ∧
    material.key? .idp kid = none ∧ ∀ c, .change c ∈ later → ¬c.Supplies kid

/-- The changes of the registry among some steps. -/
def changes (steps : List Step) : List Change := steps.filterMap Step.change?

namespace Service

variable {scheme : Scheme} {s : Service}

/-- A new engine with the collaborators of a service, over material that never changes. -/
def engineOver (scheme : Scheme) (s : Service) (m : Material) : Engine :=
  { s with trust := .fixed m }.engine scheme

/-- A service is the engine over the material that its trust source hands out. -/
theorem engine_eq (s : Service) : s.engine scheme = s.engineOver scheme s.trust.snapshot.material := by
  have same : s.trust.verify scheme = (TrustSource.fixed s.trust.snapshot.material).verify scheme :=
    TrustSource.verify_congr rfl
  simp only [engineOver, engine, SignatureVerifier.ofSource, same]

/-- Some steps leave their changes of the registry behind, and nothing else. -/
theorem fst_run {r : Registry} (served : s.trust = .registry r) (steps : List Step) :
    (s.run scheme steps).1 = { s with trust := .registry ((changes steps).foldl Registry.apply r) } := by
  induction steps generalizing s r with
  | nil => exact served ▸ rfl
  | cons x rest ih =>
    have first : (s.run scheme (x :: rest)).1 = ((s.step scheme x).1.run scheme rest).1 := rfl
    rw [first]
    cases x with
    | change c =>
      have changed : (s.step scheme (.change c)).1.trust = .registry (r.apply c) := by
        rw [step, change, served, TrustSource.change]
      exact ih changed
    | identify bundle expected minimum => exact ih served

/-- Each step is answered by the service as the steps before left it. -/
theorem getElem?_run (before after : List Step) (x : Step) :
    (s.run scheme (before ++ x :: after)).2[before.length]? =
      some ((s.run scheme before).1.step scheme x).2 := by
  induction before generalizing s with
  | nil => rfl
  | cons y rest ih =>
    have later := ih (s := (s.step scheme y).1)
    rw [List.length_cons, List.cons_append]
    exact later

theorem key?_of_revoked {kid : String} {steps : List Step} (revoked : Revoked kid steps) (m : Material) :
    ((changes steps).foldl Material.after m).key? .idp kid = none := by
  obtain ⟨earlier, material, later, rfl, absent, others⟩ := revoked
  simp only [changes, List.filterMap_append, List.filterMap_cons, Step.change?, List.foldl_append,
    List.foldl_cons]
  apply Material.key?_foldl_after
  · exact absent
  · intro c member
    obtain ⟨x, made, change⟩ := List.mem_filterMap.1 member
    exact others c (Step.change?_eq_some_iff.1 change ▸ made)

/-- A bundle with an assertion that names a key which is not trusted is rejected. -/
theorem exists_error_of_absent {m : Material} {kid : String} (absent : m.key? .idp kid = none)
    {bundle : List Assertion} {a : Assertion} {signature : AssertionSignature} (member : a ∈ bundle)
    (signed : a.signature = some signature) (names : signature.keyId = kid) (expected : String)
    (minimum : AssuranceLevel) :
    ∃ failure, (s.engineOver scheme m).identify bundle expected minimum = .error failure := by
  cases accepted : (s.engineOver scheme m).identify bundle expected minimum with
  | error failure => exact ⟨failure, rfl⟩
  | ok i =>
    obtain ⟨named, key, again, found⟩ :=
      Engine.exists_key_of_identify (e := s.engine scheme) accepted member
    obtain rfl := Option.some.inj (signed.symm.trans again)
    rw [names, absent] at found
    cases found

end Service

/-- **A service remembers trust only.** Whatever its steps so far, they leave it with the registry that their
changes make, and it answers a request as a new engine does over fixed material, the one that the registry
has come to hold. So it rejects every bundle with an assertion that names a revoked key. -/
theorem answer_of_run (scheme : Scheme) (s : Service) (r : Registry) (served : s.trust = .registry r)
    (before after : List Step) (bundle : List Assertion) (expected : String) (minimum : AssuranceLevel) :
    let now := (changes before).foldl Registry.apply r
    (s.run scheme before).1 = { s with trust := .registry now } ∧
      now.snapshot.material = (changes before).foldl Material.after r.snapshot.material ∧
      (s.run scheme (before ++ .identify bundle expected minimum :: after)).2[before.length]? =
        some (some ((s.engineOver scheme now.snapshot.material).identify bundle expected minimum)) ∧
      ∀ kid, Revoked kid before →
        (∃ a ∈ bundle, ∃ signature, a.signature = some signature ∧ signature.keyId = kid) →
        ∃ failure, (s.run scheme (before ++ .identify bundle expected minimum :: after)).2[before.length]? =
          some (some (.error failure)) := by
  intro now
  have left : (s.run scheme before).1 = { s with trust := .registry now } := Service.fst_run served before
  have material : now.snapshot.material = (changes before).foldl Material.after r.snapshot.material :=
    r.material_foldl_apply _
  have answer : (s.run scheme (before ++ .identify bundle expected minimum :: after)).2[before.length]? =
      some (some ((s.engineOver scheme now.snapshot.material).identify bundle expected minimum)) := by
    rw [Service.getElem?_run, left, Service.step, Service.engine_eq]
    rfl
  refine ⟨left, material, answer, ?_⟩
  rintro kid revoked ⟨a, member, signature, signed, names⟩
  have absent : now.snapshot.material.key? .idp kid = none :=
    material ▸ Service.key?_of_revoked revoked r.snapshot.material
  obtain ⟨failure, rejected⟩ :
      ∃ failure, (s.engineOver scheme now.snapshot.material).identify bundle expected minimum =
        .error failure :=
    Service.exists_error_of_absent absent member signed names expected minimum
  exact ⟨failure, answer.trans (congrArg (some ∘ some) rejected)⟩

/-- A request, after which the key of the identity provider is replaced by another, and then trusted for
the hub. -/
def Sample.rotation : List Step :=
  [.identify [person, signIn] "request-1" .level1, .change (.replace (.ofKeys [(.idp, ⟨"idp-2", []⟩)])),
    .change (.trust .hub key)]

theorem answer_of_run_sample :
    Revoked Sample.key.kid Sample.rotation ∧
      (∃ a ∈ [Sample.person, Sample.signIn], ∃ signature, a.signature = some signature ∧
        signature.keyId = Sample.key.kid) ∧
      ∃ failure, ((Service.standard (.registry (.new Sample.material)) ⟨Sample.now, .seconds 0⟩).run
        Ed25519.scheme (Sample.rotation ++ [.identify [Sample.person, Sample.signIn] "request-1" .level1])).2[3]? =
          some (some (.error failure)) := by
  have revoked : Revoked Sample.key.kid Sample.rotation := by
    refine ⟨[.identify [Sample.person, Sample.signIn] "request-1" .level1],
      .ofKeys [(.idp, ⟨"idp-2", []⟩)], [.change (.trust .hub Sample.key)], rfl, by decide, ?_⟩
    intro c member supplies
    obtain rfl := Step.change.inj (List.mem_singleton.1 member)
    exact absurd supplies.1 (by decide)
  have named : ∃ a ∈ [Sample.person, Sample.signIn], ∃ signature, a.signature = some signature ∧
      signature.keyId = Sample.key.kid := ⟨Sample.person, by simp, _, rfl, rfl⟩
  obtain ⟨-, -, -, rejected⟩ := answer_of_run Ed25519.scheme
    (.standard (.registry (.new Sample.material)) ⟨Sample.now, .seconds 0⟩) (.new Sample.material) rfl
    Sample.rotation [] [Sample.person, Sample.signIn] "request-1" .level1
  exact ⟨revoked, named, rejected Sample.key.kid revoked named⟩

end RelyingParty
