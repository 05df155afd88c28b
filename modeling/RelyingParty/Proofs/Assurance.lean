import RelyingParty.Assurance
import RelyingParty.Proofs.Json.Record
import RelyingParty.Proofs.Success
import RelyingParty.Proofs.Text.Case

/-!
# Contexts and names of levels

A level is claimed by its context and by no other text, and read back from its name. Where names are given
regardless of case, only the case of ASCII letters is left open.
-/

namespace RelyingParty
set_option autoImplicit false

theorem find?_context_eq_some_iff {context : String} {level : AssuranceLevel} :
    (AssuranceLevel.all.find? fun l => l.context == context) = some level ↔ level.context = context :=
  find?_name_eq_some_iff fun l => by cases l <;> rfl

theorem resolve_eq_ok_iff {context : String} {level : AssuranceLevel} :
    AssuranceLevel.resolve context = .ok level ↔ context = level.context := by
  rw [eq_comm (a := context), ← find?_context_eq_some_iff, AssuranceLevel.resolve]
  cases AssuranceLevel.all.find? fun l => l.context == context with
  | none => exact iff_of_false nofun nofun
  | some other => rw [Except.ok.injEq, Option.some.injEq]

theorem resolve_eq_error_iff {context : String} {failure : UnsupportedLevel} :
    AssuranceLevel.resolve context = .error failure ↔
      ⟨context⟩ = failure ∧ ∀ level : AssuranceLevel, context ≠ level.context := by
  simp only [ne_eq, eq_comm (a := context), ← find?_context_eq_some_iff, AssuranceLevel.resolve]
  cases AssuranceLevel.all.find? fun l => l.context == context with
  | none => rw [Except.error.injEq, and_iff_left fun _ => nofun]
  | some other => exact ⟨nofun, fun missing => absurd rfl (missing.2 other)⟩

theorem AssuranceLevel.context_injective : Function.Injective AssuranceLevel.context := by
  intro level other same
  have resolved := resolve_eq_ok_iff.2 same
  rw [resolve_eq_ok_iff.2 rfl] at resolved
  exact Except.ok.inj resolved

theorem AssuranceLevel.ofJson?_toJson (level : AssuranceLevel) : ofJson? level.toJson = some level := by
  cases level <;> exact Json.constant?_name _ (by decide)

/-- The code points of the characters of the names: `LEV`, the underscore and the digits. -/
def AssuranceLevel.nameLetters : List Nat := [76, 69, 86, 95, 49, 50, 51, 52]

/-- A level has the texts as names that are its name but for the case of ASCII letters. -/
theorem AssuranceLevel.ofName?_eq_some_iff {s : String} {level : AssuranceLevel} :
    ofName? s = some level ↔ Text.lowerAscii s = Text.lowerAscii level.name := by
  have avoided : Text.avoids nameLetters Text.upperExpansions Text.upperRuns = true := by decide +kernel
  have search : ofName? s = some level ↔ level.name = Text.upper s :=
    find?_name_eq_some_iff fun l => by cases l <;> rfl
  rw [search, eq_comm]
  exact Text.upper_eq_iff avoided (by cases level <;> decide) (by cases level <;> decide)

end RelyingParty
