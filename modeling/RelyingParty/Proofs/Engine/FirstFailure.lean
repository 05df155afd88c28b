import RelyingParty.Proofs.Engine.Authenticity
import RelyingParty.Proofs.Engine.Checks
import RelyingParty.Proofs.Engine.Run
import RelyingParty.Proofs.Refusal

/-!
# The first failure is reported

An engine makes its checks in one fixed order. It fails with what the first failing check has to
report, and it identifies the subject when no check fails.
-/

namespace RelyingParty
set_option autoImplicit false

/-! ## The checks of an engine -/

/-- What is checked of one assertion. -/
inductive AssertionCheck where
  | issueInstant
  | id
  | issuer
  | version
  | versionTwo
  | signature
  | subject
  | attributes
deriving DecidableEq

/-- The checks of one assertion, in order. -/
def AssertionCheck.all : List AssertionCheck :=
  [issueInstant, id, issuer, version, versionTwo, signature, subject, attributes]

/-- What is checked of a bundle. -/
inductive BundleCheck where
  | authnAssertions
  | identityAssertions
  | assertion (role : AssertionRole) (check : AssertionCheck)
  | issuers
  | nameIds
  | authnStatements
  | context
  | knownContext
  | level
  | nameId
  | dataset
deriving DecidableEq

namespace BundleCheck

/-- The checks of a bundle, in order. -/
def all : List BundleCheck :=
  [authnAssertions, identityAssertions] ++ AssertionCheck.all.map (assertion .authn) ++
    AssertionCheck.all.map (assertion .identity) ++ [issuers, nameIds] ++
    [authnStatements, context, knownContext, level] ++ [nameId, dataset]

/-- The role of the one assertion that a check looks at. -/
def role? : BundleCheck → Option AssertionRole
  | assertion role _ => some role
  | authnStatements | context | knownContext | level => some .authn
  | nameId | dataset => some .identity
  | authnAssertions | identityAssertions | issuers | nameIds => none

end BundleCheck

namespace Engine

/-- A check of an assertion refuses it with a failure. -/
inductive RefusesAssertion (e : Engine) (a : Assertion) (expected : String) :
    AssertionCheck → ValidationFailure → Prop
  | issueInstant (missing : a.issueInstant = none) :
    RefusesAssertion e a expected .issueInstant .missingIssueInstant
  | id (missing : ¬Present a.id) : RefusesAssertion e a expected .id .missingId
  | issuer (missing : ¬Present a.issuer) : RefusesAssertion e a expected .issuer (.missingIssuer a.idText)
  | version (missing : a.version = none) :
    RefusesAssertion e a expected .version (.missingVersion a.idText)
  | versionTwo {v : SamlVersion} (declared : a.version = some v) (other : v ≠ .v2_0) :
    RefusesAssertion e a expected .versionTwo (.illegalVersion a.idText)
  | signature {source : Trust.SignatureError} (rejected : e.signature.verify a .idp = .error source) :
    RefusesAssertion e a expected .signature (.invalidSignature a.idText source)
  | subject {source : SubjectError} (rejected : e.subject a.subject expected = .error source) :
    RefusesAssertion e a expected .subject (.invalidSubject a.idText source)
  | attributes {source : Schema.AttributeError} (rejected : e.attributes a = .error source) :
    RefusesAssertion e a expected .attributes (.invalidAttributeStatement a.idText source)

/-- A check of a bundle refuses it with a failure. -/
inductive Refuses (e : Engine) (bundle : List Assertion) (expected : String) (minimum : AssuranceLevel) :
    BundleCheck → ValidationFailure → Prop
  | authnAssertions {n : Nat} (count : (withRole .authn bundle).length = n) (other : n ≠ 1) :
    Refuses e bundle expected minimum .authnAssertions (.exactlyOneAuthnAssertionExpected n)
  | identityAssertions {n : Nat} (count : (withRole .identity bundle).length = n) (other : n ≠ 1) :
    Refuses e bundle expected minimum .identityAssertions (.exactlyOneIdentityAssertionExpected n)
  | assertion {role : AssertionRole} {a : Assertion} {check : AssertionCheck} {f : ValidationFailure}
    (only : withRole role bundle = [a]) (refused : e.RefusesAssertion a expected check f) :
    Refuses e bundle expected minimum (.assertion role check) f
  | issuers {authn identity : Assertion} (onlyAuthn : withRole .authn bundle = [authn])
    (onlyIdentity : withRole .identity bundle = [identity]) (differ : authn.issuer ≠ identity.issuer) :
    Refuses e bundle expected minimum .issuers .mismatchedIssuers
  | nameIds {authn identity : Assertion} (onlyAuthn : withRole .authn bundle = [authn])
    (onlyIdentity : withRole .identity bundle = [identity]) (differ : authn.nameId ≠ identity.nameId) :
    Refuses e bundle expected minimum .nameIds .mismatchedPids
  | authnStatements {authn : Assertion} {n : Nat} (only : withRole .authn bundle = [authn])
    (count : authn.authnStatements.length = n) (other : n ≠ 1) :
    Refuses e bundle expected minimum .authnStatements (.exactlyOneAuthnStatementExpected n)
  | context {authn : Assertion} {statement : AuthnStatement} (only : withRole .authn bundle = [authn])
    (single : authn.authnStatements = [statement]) (missing : statement.contextClassRef = none) :
    Refuses e bundle expected minimum .context .missingAuthnContext
  | knownContext {authn : Assertion} {statement : AuthnStatement} {raw : String}
    (only : withRole .authn bundle = [authn]) (single : authn.authnStatements = [statement])
    (claimed : statement.contextClassRef = some raw)
    (unknown : ∀ level : AssuranceLevel, raw ≠ level.context) :
    Refuses e bundle expected minimum .knownContext (.unsupportedAssuranceLevel ⟨raw⟩)
  | level {authn : Assertion} {statement : AuthnStatement} {actual : AssuranceLevel}
    (only : withRole .authn bundle = [authn]) (single : authn.authnStatements = [statement])
    (claimed : statement.contextClassRef = some actual.context) (below : actual.rank < minimum.rank) :
    Refuses e bundle expected minimum .level (.levelOfAssuranceBelowMinimum actual minimum)
  | nameId {identity : Assertion} (only : withRole .identity bundle = [identity])
    (missing : ¬Present identity.nameId) :
    Refuses e bundle expected minimum .nameId (.invalidSubject identity.idText .missingNameId)
  | dataset {identity : Assertion} {source : Schema.AttributeError}
    (only : withRole .identity bundle = [identity]) (rejected : e.extract identity = .error source) :
    Refuses e bundle expected minimum .dataset (.invalidAttributeStatement identity.idText source)

variable {e : Engine} {expected : String} {minimum : AssuranceLevel} {bundle : List Assertion}

theorem RefusesAssertion.single {a : Assertion} {check : AssertionCheck} {f g : ValidationFailure}
    (refused : e.RefusesAssertion a expected check f) (again : e.RefusesAssertion a expected check g) :
    f = g := by
  -- a check has one failure, but for what a collaborator reports
  have source {ε α : Type} {answer : Except ε α} {e e' : ε} (rejected : answer = .error e)
      (rejected' : answer = .error e') : e = e' :=
    Except.error.inj (rejected.symm.trans rejected')
  cases refused with
  | issueInstant =>
    cases again with
    | issueInstant => rfl
  | id =>
    cases again with
    | id => rfl
  | issuer =>
    cases again with
    | issuer => rfl
  | version =>
    cases again with
    | version => rfl
  | versionTwo =>
    cases again with
    | versionTwo => rfl
  | signature rejected =>
    cases again with
    | signature rejected' => rw [source rejected rejected']
  | subject rejected =>
    cases again with
    | subject rejected' => rw [source rejected rejected']
  | attributes rejected =>
    cases again with
    | attributes rejected' => rw [source rejected rejected']

theorem Refuses.single {check : BundleCheck} {f g : ValidationFailure}
    (refused : e.Refuses bundle expected minimum check f)
    (again : e.Refuses bundle expected minimum check g) : f = g := by
  have one {α : Type} {list : List α} {a b : α} (only : list = [a]) (only' : list = [b]) : a = b :=
    List.singleton_inj.1 (only.symm.trans only')
  cases refused with
  | authnAssertions count =>
    cases again with
    | authnAssertions count' => rw [← count, ← count']
  | identityAssertions count =>
    cases again with
    | identityAssertions count' => rw [← count, ← count']
  | assertion only refused =>
    cases again with
    | assertion only' refused' =>
      obtain rfl := one only only'
      exact refused.single refused'
  | issuers =>
    cases again with
    | issuers => rfl
  | nameIds =>
    cases again with
    | nameIds => rfl
  | authnStatements only count =>
    cases again with
    | authnStatements only' count' =>
      obtain rfl := one only only'
      rw [← count, ← count']
  | context =>
    cases again with
    | context => rfl
  | knownContext only statement claimed =>
    cases again with
    | knownContext only' statement' claimed' =>
      obtain rfl := one only only'
      obtain rfl := one statement statement'
      rw [Option.some.inj (claimed.symm.trans claimed')]
  | level only statement claimed =>
    cases again with
    | level only' statement' claimed' =>
      obtain rfl := one only only'
      obtain rfl := one statement statement'
      rw [AssuranceLevel.context_injective (Option.some.inj (claimed.symm.trans claimed'))]
  | nameId only =>
    cases again with
    | nameId only' => rw [one only only']
  | dataset only rejected =>
    cases again with
    | dataset only' rejected' =>
      obtain rfl := one only only'
      rw [Except.error.inj (rejected.symm.trans rejected')]

/-! ## One assertion -/

section Assertion

variable {a : Assertion}

theorem reports_checkFields :
    Reports (e.RefusesAssertion a expected) [.issueInstant, .id, .issuer, .version, .versionTwo]
      (checkFields a) := by
  unfold checkFields
  apply Reports.refusal
  · intro missing
    exact .issueInstant (Option.isNone_iff_eq_none.1 missing)
  · intro f refused
    cases refused with
    | issueInstant missing => exact Option.isNone_iff_eq_none.2 missing
  intro _
  apply Reports.refusal
  · intro missing
    exact .id (not_present_iff.2 missing)
  · intro f refused
    cases refused with
    | id missing => exact not_present_iff.1 missing
  intro _
  apply Reports.refusal
  · intro missing
    exact .issuer (not_present_iff.2 missing)
  · intro f refused
    cases refused with
    | issuer missing => exact not_present_iff.1 missing
  intro _
  have clear (present : a.version ≠ none) (f : ValidationFailure) :
      ¬e.RefusesAssertion a expected .version f := by
    intro refused
    cases refused with
    | version missing => exact present missing
  split
  · rename_i missing
    exact reports_error (List.forall_mem_nil _) (.version missing)
  · rename_i declared
    apply reports_ok
    refine List.forall_mem_cons.2 ⟨clear (declared ▸ nofun), List.forall_mem_singleton.2 ?_⟩
    intro f refused
    cases refused with
    | versionTwo again other => exact other (Option.some.inj (again.symm.trans declared))
  · rename_i v other declared
    exact reports_error (List.forall_mem_singleton.2 (clear (declared ▸ nofun)))
      (.versionTwo declared fun same => other (same ▸ rfl))

theorem reports_validate :
    Reports (e.RefusesAssertion a expected) AssertionCheck.all (e.validate a expected .idp) := by
  have signature : Reports (e.RefusesAssertion a expected) [.signature]
      ((e.signature.verify a .idp).mapError (.invalidSignature a.idText)) := by
    apply reports_mapError
    · intro source rejected
      exact .signature rejected
    · intro f refused
      cases refused with
      | signature rejected => exact ⟨_, rejected⟩
  have subject : Reports (e.RefusesAssertion a expected) [.subject]
      ((e.subject a.subject expected).mapError (.invalidSubject a.idText)) := by
    apply reports_mapError
    · intro source rejected
      exact .subject rejected
    · intro f refused
      cases refused with
      | subject rejected => exact ⟨_, rejected⟩
  have attributes : Reports (e.RefusesAssertion a expected) [.attributes]
      ((e.attributes a).mapError (.invalidAttributeStatement a.idText)) := by
    apply reports_mapError
    · intro source rejected
      exact .attributes rejected
    · intro f refused
      cases refused with
      | attributes rejected => exact ⟨_, rejected⟩
  rw [validate_eq]
  exact reports_checkFields.bind fun _ _ => signature.bind fun _ _ => subject.bind fun _ _ => attributes

end Assertion

/-! ## A bundle -/

theorem reports_splitBundle :
    Reports (e.Refuses bundle expected minimum) [.authnAssertions, .identityAssertions]
      (splitBundle bundle) := by
  have oneAuthn {a : Assertion} (only : withRole .authn bundle = [a]) (f : ValidationFailure) :
      ¬e.Refuses bundle expected minimum .authnAssertions f := by
    intro refused
    cases refused with
    | authnAssertions count other => exact other (count.symm.trans (congrArg List.length only))
  have oneIdentity {a : Assertion} (only : withRole .identity bundle = [a]) (f : ValidationFailure) :
      ¬e.Refuses bundle expected minimum .identityAssertions f := by
    intro refused
    cases refused with
    | identityAssertions count other => exact other (count.symm.trans (congrArg List.length only))
  unfold splitBundle
  split
  · rename_i authn identity onlyAuthn onlyIdentity
    apply reports_ok
    exact List.forall_mem_cons.2
      ⟨oneAuthn onlyAuthn, List.forall_mem_singleton.2 (oneIdentity onlyIdentity)⟩
  · rename_i authn onlyAuthn others
    refine reports_error (List.forall_mem_singleton.2 (oneAuthn onlyAuthn)) (.identityAssertions rfl ?_)
    intro count
    obtain ⟨identity, onlyIdentity⟩ := List.length_eq_one_iff.1 count
    exact others identity onlyIdentity
  · rename_i others _
    refine reports_error (List.forall_mem_nil _) (.authnAssertions rfl ?_)
    intro count
    obtain ⟨authn, onlyAuthn⟩ := List.length_eq_one_iff.1 count
    exact others authn onlyAuthn

section Pair

variable {authn identity : Assertion}

theorem reports_checkAgreement (onlyAuthn : withRole .authn bundle = [authn])
    (onlyIdentity : withRole .identity bundle = [identity]) :
    Reports (e.Refuses bundle expected minimum) [.issuers, .nameIds] (checkAgreement authn identity) := by
  unfold checkAgreement
  apply Reports.refusal
  · exact .issuers onlyAuthn onlyIdentity
  · intro f refused
    cases refused with
    | issuers only more differ =>
      cases onlyAuthn.symm.trans only
      cases onlyIdentity.symm.trans more
      exact differ
  intro _
  apply Reports.refusal
  · exact .nameIds onlyAuthn onlyIdentity
  · intro f refused
    cases refused with
    | nameIds only more differ =>
      cases onlyAuthn.symm.trans only
      cases onlyIdentity.symm.trans more
      exact differ
  intro _
  exact reports_ok () (List.forall_mem_nil _)

theorem reports_persistentId (only : withRole .identity bundle = [identity]) :
    Reports (e.Refuses bundle expected minimum) [.nameId] (persistentId identity) := by
  have missing_iff (f : ValidationFailure) (refused : e.Refuses bundle expected minimum .nameId f) :
      Text.isMissing identity.nameId = true := by
    cases refused with
    | nameId same missing =>
      cases only.symm.trans same
      exact not_present_iff.1 missing
  unfold persistentId
  split
  · rename_i nameId named
    rw [named] at missing_iff
    apply Reports.refusal
    · intro blank
      exact .nameId only (not_present_iff.2 (named ▸ blank))
    · exact missing_iff
    intro _
    exact reports_ok nameId (List.forall_mem_nil _)
  · rename_i unnamed
    exact reports_error (List.forall_mem_nil _) (.nameId only (not_present_iff.2 (unnamed ▸ rfl)))

theorem reports_extract (only : withRole .identity bundle = [identity]) :
    Reports (e.Refuses bundle expected minimum) [.dataset]
      ((e.extract identity).mapError (.invalidAttributeStatement identity.idText)) := by
  apply reports_mapError
  · intro source rejected
    exact .dataset only rejected
  · intro f refused
    cases refused with
    | dataset same rejected =>
      cases only.symm.trans same
      exact ⟨_, rejected⟩

theorem reports_claimedLevel (only : withRole .authn bundle = [authn]) :
    Reports (e.Refuses bundle expected minimum) [.authnStatements, .context, .knownContext]
      (claimedLevel authn) := by
  unfold claimedLevel
  split
  · rename_i statement single
    have one (f : ValidationFailure) : ¬e.Refuses bundle expected minimum .authnStatements f := by
      intro refused
      cases refused with
      | authnStatements same count other =>
        cases only.symm.trans same
        exact other (count.symm.trans (congrArg List.length single))
    split
    · rename_i missing
      exact reports_error (List.forall_mem_singleton.2 one) (.context only single missing)
    · rename_i raw claimed
      have present (f : ValidationFailure) : ¬e.Refuses bundle expected minimum .context f := by
        intro refused
        cases refused with
        | context same again missing =>
          cases only.symm.trans same
          cases single.symm.trans again
          cases claimed.symm.trans missing
      refine Reports.after ?_ (List.forall_mem_cons.2 ⟨one, List.forall_mem_singleton.2 present⟩)
      apply reports_mapError
      · intro source unsupported
        obtain ⟨rfl, unknown⟩ := resolve_eq_error_iff.1 unsupported
        exact .knownContext only single claimed unknown
      · intro f refused
        cases refused with
        | knownContext same again stated unknown =>
          cases only.symm.trans same
          cases single.symm.trans again
          cases claimed.symm.trans stated
          exact ⟨_, resolve_eq_error_iff.2 ⟨rfl, unknown⟩⟩
  · rename_i others
    refine reports_error (List.forall_mem_nil _) (.authnStatements only rfl ?_)
    intro count
    obtain ⟨statement, single⟩ := List.length_eq_one_iff.1 count
    exact others statement single

theorem reports_sufficientLevel (only : withRole .authn bundle = [authn]) :
    Reports (e.Refuses bundle expected minimum) [.authnStatements, .context, .knownContext, .level]
      (sufficientLevel authn minimum) := by
  have parts : sufficientLevel authn minimum = (do
      let level ← claimedLevel authn
      if level.meets minimum then .ok level else .error (.levelOfAssuranceBelowMinimum level minimum)) := by
    unfold sufficientLevel
    cases claimedLevel authn with
    | error failure => rfl
    | ok level => rfl
  rw [parts]
  apply (reports_claimedLevel only).bind
  intro level answer
  obtain ⟨statement, single, claimed⟩ := claimedLevel_eq_ok_iff.1 answer
  have meets_iff : level.meets minimum = true ↔ minimum.rank ≤ level.rank := decide_eq_true_iff
  by_cases enough : level.meets minimum = true
  · rw [if_pos enough]
    apply reports_ok
    refine List.forall_mem_singleton.2 fun f refused => ?_
    cases refused with
    | level same again stated below =>
      cases only.symm.trans same
      cases single.symm.trans again
      obtain rfl := AssuranceLevel.context_injective (Option.some.inj (claimed.symm.trans stated))
      exact absurd (meets_iff.1 enough) (Nat.not_le.2 below)
  · rw [if_neg enough]
    rw [meets_iff, Nat.not_le] at enough
    exact reports_error (List.forall_mem_nil _) (.level only single claimed enough)

end Pair

/-- The checks of a bundle account for how its identification ends. -/
theorem reports_identify :
    Reports (e.Refuses bundle expected minimum) BundleCheck.all
      (e.identify bundle expected minimum) := by
  have validates {role : AssertionRole} {a : Assertion} (only : withRole role bundle = [a]) :
      Reports (e.Refuses bundle expected minimum) (AssertionCheck.all.map (.assertion role))
        (e.validate a expected .idp) := by
    apply reports_validate.map
    intro check f
    constructor
    · intro refused
      cases refused with
      | assertion same fault =>
        cases only.symm.trans same
        exact fault
    · exact .assertion only
  rw [identify, (e.does_identifyRun bundle expected minimum).result, BundleCheck.all]
  -- each step of the identification answers for the next checks in the list
  simp only [List.append_assoc]
  apply reports_splitBundle.bind
  rintro ⟨authn, identity⟩ split
  obtain ⟨onlyAuthn, onlyIdentity⟩ := splitBundle_eq_ok_iff.1 split
  apply (validates onlyAuthn).bind
  intro _ _
  apply (validates onlyIdentity).bind
  intro _ _
  apply (reports_checkAgreement onlyAuthn onlyIdentity).bind
  intro _ _
  apply (reports_sufficientLevel onlyAuthn).bind
  intro level _
  apply (reports_persistentId onlyIdentity).bind
  intro pid _
  apply (reports_extract onlyIdentity).bind
  intro dataset _
  exact reports_ok _ (List.forall_mem_nil _)

/-! ## What a failure carries -/

/-- What a failure carries is so: the numbers were counted on the bundle, the errors are those that the
collaborators gave, and the levels and contexts were claimed. -/
def Accounts (e : Engine) (bundle : List Assertion) (expected : String) (minimum : AssuranceLevel)
    (c : BundleCheck) : ValidationFailure → Prop
  | .exactlyOneAuthnAssertionExpected n => (withRole .authn bundle).length = n
  | .exactlyOneIdentityAssertionExpected n => (withRole .identity bundle).length = n
  | .exactlyOneAuthnStatementExpected n =>
    2 ≤ n ∧ ∃ authn, withRole .authn bundle = [authn] ∧ authn.authnStatements.length = n
  | .invalidSignature _ source => ∃ role a, withRole role bundle = [a] ∧
    c = .assertion role .signature ∧ e.signature.verify a .idp = .error source
  | .invalidSubject _ source => ∃ role a, withRole role bundle = [a] ∧
    (c = .assertion role .subject ∧ e.subject a.subject expected = .error source ∨
      c = .nameId ∧ role = .identity ∧ source = .missingNameId)
  | .invalidAttributeStatement _ source => ∃ role a, withRole role bundle = [a] ∧
    (c = .assertion role .attributes ∧ e.attributes a = .error source ∨
      c = .dataset ∧ role = .identity ∧ e.extract a = .error source)
  | .unsupportedAssuranceLevel unsupported => ∃ authn statement, withRole .authn bundle = [authn] ∧
    authn.authnStatements = [statement] ∧ statement.contextClassRef = some unsupported.raw
  | .levelOfAssuranceBelowMinimum actual least => least = minimum ∧ ∃ authn,
    withRole .authn bundle = [authn] ∧ claimedLevel authn = .ok actual
  | _ => True

theorem Refuses.accounts {c : BundleCheck} {f : ValidationFailure}
    (refused : e.Refuses bundle expected minimum c f) : e.Accounts bundle expected minimum c f := by
  cases refused with
  | authnAssertions count _ => exact count
  | identityAssertions count _ => exact count
  | assertion only fault =>
    cases fault with
    | signature rejected => exact ⟨_, _, only, rfl, rejected⟩
    | subject rejected => exact ⟨_, _, only, .inl ⟨rfl, rejected⟩⟩
    | attributes rejected => exact ⟨_, _, only, .inl ⟨rfl, rejected⟩⟩
    | _ => trivial
  | authnStatements only count other =>
    rename_i authn n
    have member : authn ∈ withRole .authn bundle := only ▸ List.mem_singleton.2 rfl
    have role := eq_of_beq (List.mem_filter.1 member).2
    have some := List.length_pos_iff.2 (role_eq_authn_iff.1 role)
    refine ⟨?_, authn, only, count⟩
    omega
  | knownContext only single claimed _ => exact ⟨_, _, only, single, claimed⟩
  | level only single claimed _ =>
    exact ⟨rfl, _, only, claimedLevel_eq_ok_iff.2 ⟨_, single, claimed⟩⟩
  | nameId only _ => exact ⟨.identity, _, only, .inr ⟨rfl, rfl, rfl⟩⟩
  | dataset only rejected => exact ⟨.identity, _, only, .inr ⟨rfl, rfl, rejected⟩⟩
  | _ => trivial

/-- Where a failure names an assertion, its identifier has already been found in order. -/
theorem present_id {c : BundleCheck} {f : ValidationFailure} {role : AssertionRole} {a : Assertion}
    (first : FirstRefusal (e.Refuses bundle expected minimum) BundleCheck.all c f)
    (only : withRole role bundle = [a])
    (earlier : BundleCheck.all.idxOf (.assertion role .id) < BundleCheck.all.idxOf c) :
    Present a.id ∧ a.id = some a.idText := by
  have present : Present a.id := by
    by_contra missing
    exact first.clear_of_idxOf_lt earlier _ (.assertion only (.id missing))
  obtain ⟨t, same, -⟩ := id present
  refine ⟨present, ?_⟩
  rw [Assertion.idText, same]
  rfl

theorem RefusesAssertion.names {a : Assertion} {check : AssertionCheck} {f : ValidationFailure} {x : String}
    (fault : e.RefusesAssertion a expected check f) (names : f.assertionId = some x) :
    a.idText = x ∧ ∀ role, BundleCheck.all.idxOf (.assertion role .id) <
      BundleCheck.all.idxOf (.assertion role check) := by
  cases fault with
  | issueInstant _ => cases names
  | id _ => cases names
  | _ =>
    refine ⟨Option.some.inj names, ?_⟩
    intro role
    cases role <;> decide

theorem assertionId_of_first {c : BundleCheck} {f : ValidationFailure} {x : String}
    (first : FirstRefusal (e.Refuses bundle expected minimum) BundleCheck.all c f)
    (names : f.assertionId = some x) :
    ∃ role a, c.role? = some role ∧ withRole role bundle = [a] ∧ a.id = some x ∧ Present a.id := by
  cases first.refused with
  | assertion only fault =>
    obtain ⟨rfl, earlier⟩ := fault.names names
    obtain ⟨present, same⟩ := present_id first only (earlier _)
    exact ⟨_, _, rfl, only, same, present⟩
  | nameId only _ =>
    obtain ⟨present, same⟩ := present_id first only (by decide)
    cases names
    exact ⟨.identity, _, rfl, only, same, present⟩
  | dataset only rejected =>
    obtain ⟨present, same⟩ := present_id first only (by decide)
    cases names
    exact ⟨.identity, _, rfl, only, same, present⟩
  | _ => cases names

end Engine

/-- **The first failing check is the one reported.** A bundle is identified when no check refuses it.
Otherwise the failure is that of the first check that does, it accounts for what it carries, and the
identifier in it is that of the assertion that the check looked at. -/
theorem identify_reports_first (e : Engine) (bundle : List Assertion) (expected : String)
    (minimum : AssuranceLevel) :
    ((∃ i, e.identify bundle expected minimum = .ok i) ↔
        ∀ c ∈ BundleCheck.all, ∀ f, ¬e.Refuses bundle expected minimum c f) ∧
      ∀ f, (e.identify bundle expected minimum = .error f ↔
          ∃ c, FirstRefusal (e.Refuses bundle expected minimum) BundleCheck.all c f) ∧
        ∀ c, FirstRefusal (e.Refuses bundle expected minimum) BundleCheck.all c f →
          e.Accounts bundle expected minimum c f ∧
            ∀ x, f.assertionId = some x → ∃ role a, c.role? = some role ∧
              withRole role bundle = [a] ∧ a.id = some x ∧ Present a.id := by
  have reports : Reports (e.Refuses bundle expected minimum) BundleCheck.all
      (e.identify bundle expected minimum) := Engine.reports_identify
  refine ⟨reports.ok_iff, fun f => ⟨?_, ?_⟩⟩
  · exact reports.error_iff (fun c f g refused again => refused.single again) f
  · intro c first
    exact ⟨first.refused.accounts, fun x names => Engine.assertionId_of_first first names⟩

/-- An identity assertion that was never issued, and a sign-in by nobody with no version. -/
def Sample.flawed : List Assertion :=
  [{ person with issueInstant := none }, { signIn with issuer := none, version := none }]

theorem identify_reports_first_sample :
    Sample.engine.identify Sample.flawed "request-1" .level1 = .error (.missingIssuer "sign-in") ∧
      ∃ c, FirstRefusal (Sample.engine.Refuses Sample.flawed "request-1" .level1) BundleCheck.all c
          (.missingIssuer "sign-in") ∧
        ∃ role a, c.role? = some role ∧ withRole role Sample.flawed = [a] ∧ a.id = some "sign-in" ∧
          Present a.id := by
  have failing : Sample.engine.identify Sample.flawed "request-1" .level1 =
      .error (.missingIssuer "sign-in") := rfl
  obtain ⟨-, reports⟩ := identify_reports_first Sample.engine Sample.flawed "request-1" .level1
  obtain ⟨reported, carries⟩ := reports (.missingIssuer "sign-in")
  obtain ⟨c, first⟩ := reported.1 failing
  exact ⟨failing, c, first, (carries c first).2 "sign-in" rfl⟩

end RelyingParty
