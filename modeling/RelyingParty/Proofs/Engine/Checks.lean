import RelyingParty.Engine.Outcome
import RelyingParty.Proofs.Assurance
import RelyingParty.Proofs.Confirmation

/-!
# What the checks of an engine accept

The checks that an engine makes by itself: telling the two assertions of a bundle apart, the fields that
every assertion has, the agreement of the two, the level of the sign-in and the persistent identifier.
-/

namespace RelyingParty
set_option autoImplicit false

theorem checkFields_eq_ok_iff {a : Assertion} :
    checkFields a = .ok () ↔
      a.issueInstant ≠ none ∧ Present a.id ∧ Present a.issuer ∧ a.version = some .v2_0 := by
  rw [checkFields, error_else_eq_ok_iff, error_else_eq_ok_iff, error_else_eq_ok_iff, not_isMissing_iff,
    not_isMissing_iff, Option.isNone_iff_eq_none]
  refine and_congr Iff.rfl (and_congr Iff.rfl (and_congr Iff.rfl ?_))
  cases a.version with
  | none => simp
  | some v => cases v <;> simp

theorem checkAgreement_eq_ok_iff {authn identity : Assertion} :
    checkAgreement authn identity = .ok () ↔
      authn.issuer = identity.issuer ∧ authn.nameId = identity.nameId := by
  rw [checkAgreement, error_else_eq_ok_iff, error_else_eq_ok_iff, not_not, not_not, and_iff_left rfl]

theorem splitBundle_eq_ok_iff {bundle : List Assertion} {authn identity : Assertion} :
    splitBundle bundle = .ok (authn, identity) ↔
      withRole .authn bundle = [authn] ∧ withRole .identity bundle = [identity] := by
  unfold splitBundle
  generalize withRole .authn bundle = authns
  generalize withRole .identity bundle = identities
  rcases authns with _ | ⟨a, _ | ⟨b, rest⟩⟩
  · simp
  · rcases identities with _ | ⟨c, _ | ⟨d, rest⟩⟩ <;> simp
  · simp

theorem role_eq_identity_iff {a : Assertion} : a.role = .identity ↔ a.authnStatements = [] := by
  unfold Assertion.role
  cases a.authnStatements with
  | nil => exact iff_of_true rfl rfl
  | cons s rest => exact iff_of_false nofun nofun

theorem role_eq_authn_iff {a : Assertion} : a.role = .authn ↔ a.authnStatements ≠ [] := by
  rw [ne_eq, ← role_eq_identity_iff]
  cases a.role <;> simp

theorem withRole_perm {bundle other : List Assertion} (perm : bundle.Perm other) (role : AssertionRole) :
    (withRole role bundle).Perm (withRole role other) :=
  perm.filter _

/-- The two groups of a bundle together are the bundle. -/
theorem withRole_append_perm (bundle : List Assertion) :
    (withRole .authn bundle ++ withRole .identity bundle).Perm bundle := by
  have others : (bundle.filter fun a => !(a.role == .authn)) = withRole .identity bundle := by
    apply List.filter_congr
    intro a _
    cases a.role <;> rfl
  rw [← others]
  exact List.filter_append_perm (fun a : Assertion => a.role == .authn) bundle

/-- A bundle splits into two assertions when it consists of them, in either order. -/
theorem splitBundle_eq_ok_iff_perm {bundle : List Assertion} {authn identity : Assertion} :
    splitBundle bundle = .ok (authn, identity) ↔
      bundle.Perm [authn, identity] ∧ authn.authnStatements ≠ [] ∧ identity.authnStatements = [] := by
  rw [splitBundle_eq_ok_iff, ← role_eq_authn_iff, ← role_eq_identity_iff]
  constructor
  · rintro ⟨authns, identities⟩
    have parts := withRole_append_perm bundle
    rw [authns, identities] at parts
    have authnHere : authn ∈ withRole .authn bundle := authns ▸ List.mem_singleton.2 rfl
    have identityHere : identity ∈ withRole .identity bundle := identities ▸ List.mem_singleton.2 rfl
    exact ⟨parts.symm, eq_of_beq (List.mem_filter.1 authnHere).2,
      eq_of_beq (List.mem_filter.1 identityHere).2⟩
  · rintro ⟨parts, authnRole, identityRole⟩
    have authns := withRole_perm parts .authn
    have identities := withRole_perm parts .identity
    simp only [withRole, List.filter_cons, authnRole, identityRole] at authns identities
    exact ⟨List.perm_singleton.1 authns, List.perm_singleton.1 identities⟩

theorem claimedLevel_eq_ok_iff {authn : Assertion} {level : AssuranceLevel} :
    claimedLevel authn = .ok level ↔
      ∃ statement, authn.authnStatements = [statement] ∧
        statement.contextClassRef = some level.context := by
  unfold claimedLevel
  split
  · rename_i statement only
    simp only [only, List.cons.injEq, and_true, exists_eq_left']
    cases statement.contextClassRef with
    | none => simp only [reduceCtorEq]
    | some context => simp only [mapError_eq_ok_iff, resolve_eq_ok_iff, Option.some.injEq]
  · rename_i others
    constructor
    · intro accepted
      cases accepted
    · rintro ⟨statement, only, -⟩
      exact absurd only (others statement)

theorem sufficientLevel_eq_ok_iff {authn : Assertion} {minimum level : AssuranceLevel} :
    sufficientLevel authn minimum = .ok level ↔
      claimedLevel authn = .ok level ∧ minimum.rank ≤ level.rank := by
  unfold sufficientLevel
  cases claimedLevel authn with
  | error e => exact ⟨nofun, nofun⟩
  | ok claimed =>
    have meets : claimed.meets minimum = true ↔ minimum.rank ≤ claimed.rank := decide_eq_true_iff
    dsimp only
    constructor
    · intro answer
      split at answer
      · rename_i enough
        obtain rfl := Except.ok.inj answer
        exact ⟨rfl, meets.1 enough⟩
      · cases answer
    · rintro ⟨same, enough⟩
      obtain rfl := Except.ok.inj same
      exact if_pos (meets.2 enough)

theorem persistentId_eq_ok_iff {identity : Assertion} {pid : String} :
    persistentId identity = .ok pid ↔ identity.nameId = some pid ∧ Present identity.nameId := by
  unfold persistentId
  rw [← not_isMissing_iff]
  cases identity.nameId with
  | none => simp
  | some nameId =>
    simp only [error_else_eq_ok_iff, Except.ok.injEq, Option.some.injEq, Text.isMissing, and_comm]

end RelyingParty
