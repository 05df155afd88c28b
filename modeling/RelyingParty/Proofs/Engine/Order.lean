import RelyingParty.Proofs.Engine.Authenticity

/-!
# The order of a bundle does not matter

An engine looks at a bundle through its two groups only, and at a group only through its one assertion or
through how many it has. A permutation of the bundle changes neither.
-/

namespace RelyingParty
set_option autoImplicit false

/-- A list in another order is the same single element, or has the same length, which is not one. -/
theorem single_or_length_of_perm {α : Type} {l l' : List α} (perm : l.Perm l') :
    (∃ a, l = [a] ∧ l' = [a]) ∨ l.length ≠ 1 ∧ l'.length = l.length := by
  by_cases single : l.length = 1
  · obtain ⟨a, rfl⟩ := List.length_eq_one_iff.1 single
    exact .inl ⟨a, rfl, perm.singleton_eq.symm⟩
  · exact .inr ⟨single, perm.length_eq.symm⟩

/-! ## Splitting a bundle by the sizes of its groups -/

theorem splitBundle_of_authns {bundle : List Assertion} (count : (withRole .authn bundle).length ≠ 1) :
    splitBundle bundle = .error (.exactlyOneAuthnAssertionExpected (withRole .authn bundle).length) := by
  unfold splitBundle
  split
  · rename_i only _
    exact absurd (congrArg List.length only) count
  · rename_i only _
    exact absurd (congrArg List.length only) count
  · rfl

theorem splitBundle_of_identities {bundle : List Assertion} {authn : Assertion}
    (only : withRole .authn bundle = [authn]) (count : (withRole .identity bundle).length ≠ 1) :
    splitBundle bundle =
      .error (.exactlyOneIdentityAssertionExpected (withRole .identity bundle).length) := by
  unfold splitBundle
  rw [only]
  split
  · rename_i single
    exact absurd (congrArg List.length single) count
  · rfl
  · rename_i others _
    exact absurd rfl (others authn)

/-- Both orders of a bundle are split alike, and refused with the same counts. -/
theorem splitBundle_eq_of_perm {bundle other : List Assertion} (perm : bundle.Perm other) :
    splitBundle bundle = splitBundle other := by
  have authns := single_or_length_of_perm (withRole_perm perm .authn)
  have identities := single_or_length_of_perm (withRole_perm perm .identity)
  rcases authns with ⟨authn, here, there⟩ | ⟨count, same⟩
  · rcases identities with ⟨identity, first, second⟩ | ⟨count, same⟩
    · rw [splitBundle_eq_ok_iff.2 ⟨here, first⟩, splitBundle_eq_ok_iff.2 ⟨there, second⟩]
    · rw [splitBundle_of_identities here count, splitBundle_of_identities there (same ▸ count), same]
  · rw [splitBundle_of_authns count, splitBundle_of_authns (same ▸ count), same]

/-- **The order of a bundle does not matter.** Whatever the collaborators answer, an engine gives one answer
to a bundle in any order, and makes the same calls for it. -/
theorem identify_of_perm (e : Engine) {bundle other : List Assertion} (perm : bundle.Perm other)
    (expected : String) (minimum : AssuranceLevel) :
    e.identify bundle expected minimum = e.identify other expected minimum ∧
      (e.identifyRun bundle expected minimum).calls = (e.identifyRun other expected minimum).calls := by
  have run : e.identifyRun bundle expected minimum = e.identifyRun other expected minimum := by
    unfold Engine.identifyRun
    rw [splitBundle_eq_of_perm perm]
  exact ⟨congrArg Run.result run, congrArg Run.calls run⟩

/-- A bundle is accepted in both orders, and refused in all orders once an assertion is in it twice. -/
theorem identify_of_perm_sample :
    [Sample.person, Sample.signIn].Perm [Sample.signIn, Sample.person] ∧
      Sample.engine.identify [Sample.signIn, Sample.person] "request-1" .level1 = .ok Sample.identity ∧
      [Sample.person, Sample.signIn, Sample.person].Perm [Sample.signIn, Sample.person, Sample.person] ∧
      Sample.engine.identify [Sample.signIn, Sample.person, Sample.person] "request-1" .level1 =
        .error (.exactlyOneIdentityAssertionExpected 2) := by
  have swapped : [Sample.person, Sample.signIn].Perm [Sample.signIn, Sample.person] := .swap _ _ _
  have moved : [Sample.person, Sample.signIn, Sample.person].Perm
      [Sample.signIn, Sample.person, Sample.person] := .swap _ _ _
  have accepted := (identify_of_perm Sample.engine swapped "request-1" .level1).1
  have refused := (identify_of_perm Sample.engine moved "request-1" .level1).1
  exact ⟨swapped, accepted.symm.trans Sample.identify, moved, refused.symm.trans rfl⟩

end RelyingParty
