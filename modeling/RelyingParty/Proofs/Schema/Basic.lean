import RelyingParty.Proofs.Success
import RelyingParty.Schema.Basic

/-!
# Names, intervals and texts in the schema

What the readers that checking and extraction share accept, and what they give.
-/

namespace RelyingParty
set_option autoImplicit false

theorem Validity.isOrdered_iff (v : Validity) : v.isOrdered = true ↔ v.Ordered := by
  obtain ⟨start, stop⟩ := v
  cases start with
  | none => simp [isOrdered, Ordered]
  | some start =>
    cases stop with
    | none => simp [isOrdered, Ordered]
    | some stop => simp [isOrdered, Ordered]

theorem Validity.new_eq_ok_iff {start stop : Option Calendar.Instant} {v : Validity} :
    Validity.new start stop = .ok v ↔ Validity.Ordered ⟨start, stop⟩ ∧ ⟨start, stop⟩ = v := by
  rw [← Validity.isOrdered_iff]
  by_cases ordered : Validity.isOrdered ⟨start, stop⟩ = true
  · have accepted : Validity.new start stop = .ok ⟨start, stop⟩ := if_pos ordered
    rw [accepted, Except.ok.injEq, and_iff_right ordered]
  · have refused : Validity.new start stop = .error ⟨start, stop⟩ := if_neg ordered
    rw [refused]
    exact ⟨nofun, fun success => absurd success.1 ordered⟩

theorem Validity.new_eq_error_iff {start stop : Option Calendar.Instant} {e : ReversedInterval} :
    Validity.new start stop = .error e ↔ ¬Validity.Ordered ⟨start, stop⟩ ∧ ⟨start, stop⟩ = e := by
  rw [← Validity.isOrdered_iff]
  by_cases ordered : Validity.isOrdered ⟨start, stop⟩ = true
  · have accepted : Validity.new start stop = .ok ⟨start, stop⟩ := if_pos ordered
    rw [accepted]
    exact ⟨nofun, fun failure => absurd ordered failure.1⟩
  · have refused : Validity.new start stop = .error ⟨start, stop⟩ := if_neg ordered
    rw [refused, Except.error.injEq, and_iff_right ordered]

theorem Gender.ofName?_eq_some_iff {s : String} {g : Gender} :
    Gender.ofName? s = some g ↔ g.name = s :=
  find?_name_eq_some_iff fun g => by cases g <;> rfl

namespace Schema

namespace Field

theorem ofName?_name (f : Field) : ofName? f.name = some f := by
  cases f <;> rfl

theorem name_injective : Function.Injective name :=
  injective_of_read ofName?_name

theorem ofName?_eq_some_iff {s : String} {f : Field} : ofName? s = some f ↔ f.name = s :=
  find?_name_eq_some_iff ofName?_name

end Field

theorem interval_eq_ok_iff {name : String} {start stop : Option Calendar.Instant} {v : Validity} :
    interval name start stop = .ok v ↔ Validity.Ordered ⟨start, stop⟩ ∧ ⟨start, stop⟩ = v := by
  rw [interval, mapError_eq_ok_iff, Validity.new_eq_ok_iff]

theorem dateOf_eq_ok_iff {name raw : String} {d : Calendar.Date} :
    dateOf name raw = .ok d ↔ Calendar.Date.ofCompactText? raw = some d := by
  unfold dateOf
  cases Calendar.Date.ofCompactText? raw with
  | none => exact ⟨nofun, nofun⟩
  | some x => simp only [Except.ok.injEq, Option.some.injEq]

theorem genderOf_eq_ok_iff {name raw : String} {g : Gender} :
    genderOf name raw = .ok g ↔ Gender.ofName? raw = some g := by
  unfold genderOf
  cases Gender.ofName? raw with
  | none => exact ⟨nofun, nofun⟩
  | some x => simp only [Except.ok.injEq, Option.some.injEq]

theorem interval_eq_error_iff {name : String} {start stop : Option Calendar.Instant} {e : AttributeError} :
    interval name start stop = .error e ↔
      ¬Validity.Ordered ⟨start, stop⟩ ∧ .invalidInterval name = e := by
  rw [interval]
  cases given : Validity.new start stop with
  | error other =>
    have reversed := (Validity.new_eq_error_iff.1 given).1
    rw [Except.mapError, Except.error.injEq, and_iff_right reversed]
  | ok v =>
    have ordered := (Validity.new_eq_ok_iff.1 given).1
    exact ⟨nofun, fun failure => absurd ordered failure.1⟩

theorem dateOf_eq_error_iff {name raw : String} {e : AttributeError} :
    dateOf name raw = .error e ↔
      (∀ d, Calendar.Date.ofCompactText? raw ≠ some d) ∧ .invalidValue name .notADate = e := by
  unfold dateOf
  cases Calendar.Date.ofCompactText? raw with
  | none => rw [Except.error.injEq, and_iff_right (fun _ => nofun)]
  | some d => exact ⟨nofun, fun failure => absurd rfl (failure.1 d)⟩

theorem genderOf_eq_error_iff {name raw : String} {e : AttributeError} :
    genderOf name raw = .error e ↔
      (∀ g, Gender.ofName? raw ≠ some g) ∧ .invalidValue name (.unknownGender raw) = e := by
  unfold genderOf
  cases Gender.ofName? raw with
  | none => rw [Except.error.injEq, and_iff_right (fun _ => nofun)]
  | some g => exact ⟨nofun, fun failure => absurd rfl (failure.1 g)⟩

end Schema
end RelyingParty
