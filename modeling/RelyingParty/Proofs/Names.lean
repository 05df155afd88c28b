import RelyingParty.Proofs.Assurance
import RelyingParty.Trust.Role

/-!
# Names regardless of case

Names of levels and of signer roles are compared after a full case mapping. Still no text looks like a name
without being one: what is accepted differs from the name in the case of ASCII letters alone.
-/

namespace RelyingParty
set_option autoImplicit false
open Text (Lowers lowerAscii)
open Trust (SignerRole)

/-- The code points of the letters of the names: `b`, `d`, `h`, `i`, `p` and `u`. -/
def Trust.SignerRole.nameLetters : List Nat := [98, 100, 104, 105, 112, 117]

theorem Trust.SignerRole.ofName?_eq_some_iff_lower {s : String} {role : SignerRole} :
    ofName? s = some role ↔ Text.lower s = role.name := by
  have search : ofName? s = some role ↔ role.name = Text.lower s :=
    find?_name_eq_some_iff fun r => by cases r <;> rfl
  rw [search, eq_comm]

/-- A role has the texts as names that are its name but for the case of ASCII letters. -/
theorem Trust.SignerRole.ofName?_eq_some_iff {s : String} {role : SignerRole} :
    ofName? s = some role ↔ lowerAscii s = lowerAscii role.name := by
  have avoided : Text.avoids nameLetters Text.lowerExpansions Text.lowerRuns = true := by decide +kernel
  rw [ofName?_eq_some_iff_lower]
  exact Text.lower_eq_iff avoided (by cases role <;> decide) (by cases role <;> decide)

/-- The dotted capital is mapped to a small letter and a dot, so that it begins no name. -/
example : SignerRole.ofName? "IdP" = some .idp ∧ SignerRole.ofName? "\u0130dp" = none := by decide +kernel

theorem AssuranceLevel.ascii_name (level : AssuranceLevel) : ∀ d ∈ level.name.toList, d.toNat < 128 := by
  have all : level.name.toList.all (fun d => decide (d.toNat < 128)) = true := by cases level <;> rfl
  simpa only [List.all_eq_true, decide_eq_true_eq] using all

theorem Trust.SignerRole.ascii_name (role : SignerRole) : ∀ d ∈ role.name.toList, d.toNat < 128 := by
  have all : role.name.toList.all (fun d => decide (d.toNat < 128)) = true := by cases role <;> rfl
  simpa only [List.all_eq_true, decide_eq_true_eq] using all

/-- **Names leave only the case of ASCII letters open.** A text is read as a level or a role exactly when it is
its name but for the case of ASCII letters, and for roles whatever form a sigma takes in lower case. So a text
with a character outside ASCII is neither. -/
theorem names_leave_ascii_case (s : String) :
    (∀ level, AssuranceLevel.ofName? s = some level ↔ lowerAscii s = lowerAscii level.name) ∧
      (∀ role, SignerRole.ofName? s = some role ↔ lowerAscii s = lowerAscii role.name) ∧
      (∀ t role, Lowers s.toList t.toList → (t = role.name ↔ SignerRole.ofName? s = some role)) ∧
      ((∃ c ∈ s.toList, 128 ≤ c.toNat) → AssuranceLevel.ofName? s = none ∧ SignerRole.ofName? s = none) := by
  refine ⟨fun _ => AssuranceLevel.ofName?_eq_some_iff, fun _ => SignerRole.ofName?_eq_some_iff, ?sigma, ?outside⟩
  case sigma =>
    intro t role lowers
    rw [SignerRole.ofName?_eq_some_iff_lower]
    exact Text.eq_name_iff_of_lowers lowers role.ascii_name
  case outside =>
    rintro ⟨c, member, large⟩
    rw [Option.eq_none_iff_forall_ne_some, Option.eq_none_iff_forall_ne_some]
    constructor
    · intro level named
      have small := Text.ascii_of_lowerAscii level.ascii_name (AssuranceLevel.ofName?_eq_some_iff.1 named)
      exact Nat.not_lt.2 large (small c member)
    · intro role named
      have small := Text.ascii_of_lowerAscii role.ascii_name (SignerRole.ofName?_eq_some_iff.1 named)
      exact Nat.not_lt.2 large (small c member)

/-- A sigma after a name makes it none, though its final form ends the lower case. -/
theorem names_leave_ascii_case_sigma :
    ("hubς" = SignerRole.hub.name ↔ SignerRole.ofName? "HUBΣ" = some .hub) ∧
      AssuranceLevel.ofName? "HUBΣ" = none ∧ SignerRole.ofName? "HUBΣ" = none := by
  have lowers : Lowers "HUBΣ".toList "hubς".toList := .mapped 'H' (.mapped 'U' (.mapped 'B' (.finalSigma .nil)))
  obtain ⟨-, -, sigma, outside⟩ := names_leave_ascii_case "HUBΣ"
  exact ⟨sigma _ _ lowers, outside ⟨'Σ', by decide, by decide⟩⟩

end RelyingParty
