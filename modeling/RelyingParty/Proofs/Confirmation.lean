import RelyingParty.Confirmation
import RelyingParty.Proofs.Success

/-!
# When a subject is confirmed

A subject is confirmed by its only confirmation, whose window is open for every reading that the clock
may stand for.
-/

namespace RelyingParty
set_option autoImplicit false
open Calendar

/-- An optional text is there and holds more than blanks. -/
def Present (s : Option String) : Prop :=
  ∃ t, s = some t ∧ ∃ c ∈ t.toList, Text.isBlank c = false

theorem isBlankText_eq_false_iff {s : String} :
    Text.isBlankText s = false ↔ ∃ c ∈ s.toList, Text.isBlank c = false :=
  List.all_eq_false.trans (by simp only [Bool.not_eq_true])

theorem not_isMissing_iff {s : Option String} : ¬Text.isMissing s = true ↔ Present s := by
  rw [Bool.not_eq_true]
  cases s with
  | none => exact ⟨nofun, nofun⟩
  | some t =>
    rw [Text.isMissing, isBlankText_eq_false_iff]
    constructor
    · intro char
      exact ⟨t, rfl, char⟩
    · rintro ⟨_, same, char⟩
      exact Option.some.inj same ▸ char

theorem not_present_iff {s : Option String} : ¬Present s ↔ Text.isMissing s = true :=
  not_iff_comm.1 not_isMissing_iff

theorem Calendar.Instant.not_lt {s t : Instant} : ¬s < t ↔ t ≤ s := Int.not_lt

theorem Calendar.Instant.not_le {s t : Instant} : ¬s ≤ t ↔ t < s := Int.not_le

namespace Confirmation

/-- A subject is confirmed by the data of its only confirmation, from the earliest to the latest reading
of a clock, in answer to a request. -/
structure Confirms (clock : Clock) (expected : String) (s : Subject) (data : ConfirmationData)
    (latest earliest : Instant) : Prop where
  single : s.confirmations = [⟨bearerMethod, some data⟩]
  latestReading : clock.now.shift? clock.skew = some latest
  earliestReading : clock.now.shift? clock.skew.neg = some earliest
  begun : ∀ t ∈ data.notBefore, t ≤ latest
  running : ∃ t, data.notOnOrAfter = some t ∧ earliest < t
  request : data.inResponseTo = some expected
  nameId : Present s.nameId

theorem single_eq_ok_iff {s : Subject} {c : Confirmation} :
    single s = .ok c ↔ s.confirmations = [c] := by
  unfold single
  split
  · rename_i only holds
    rw [holds, Except.ok.injEq, List.cons.injEq, and_iff_left rfl]
  · rename_i others
    exact ⟨nofun, fun holds => absurd holds (others c)⟩

theorem bearerData_eq_ok_iff {c : Confirmation} {data : ConfirmationData} :
    bearerData c = .ok data ↔ c = ⟨bearerMethod, some data⟩ := by
  obtain ⟨method, held⟩ := c
  simp only [bearerData, error_else_eq_ok_iff, not_not, Confirmation.mk.injEq]
  cases held with
  | none => simp
  | some d => simp

theorem bounds_eq_ok_iff {clock : Clock} {readings : Instant × Instant} :
    clock.bounds = .ok readings ↔
      clock.now.shift? clock.skew = some readings.1 ∧
      clock.now.shift? clock.skew.neg = some readings.2 := by
  unfold Clock.bounds
  cases clock.now.shift? clock.skew with
  | none => exact ⟨nofun, nofun⟩
  | some latest =>
    cases clock.now.shift? clock.skew.neg with
    | none => exact ⟨nofun, nofun⟩
    | some earliest =>
      rw [Except.ok.injEq, Option.some.injEq, Option.some.injEq, Prod.ext_iff]

theorem checkWindow_eq_ok_iff {data : ConfirmationData} {latest earliest : Instant} :
    checkWindow data latest earliest = .ok () ↔
      (∀ t ∈ data.notBefore, t ≤ latest) ∧ ∃ t, data.notOnOrAfter = some t ∧ earliest < t := by
  obtain ⟨_, notBefore, notOnOrAfter, _⟩ := data
  have closes : checkWindow ⟨none, none, notOnOrAfter, none⟩ latest earliest = .ok () ↔
      ∃ t, notOnOrAfter = some t ∧ earliest < t := by
    unfold checkWindow
    cases notOnOrAfter with
    | none => simp [throw_eq_error]
    | some t =>
      simp only [throw_else_eq_ok_iff, Instant.not_le]
      constructor
      · rintro ⟨running, -⟩
        exact ⟨t, rfl, running⟩
      · rintro ⟨_, same, running⟩
        exact ⟨Option.some.inj same ▸ running, rfl⟩
  rw [← closes]
  cases notBefore with
  | none => exact (and_iff_right fun _ absent => nomatch absent).symm
  | some t =>
    simp only [checkWindow, throw_bind_else_eq_ok_iff, Instant.not_lt, Option.mem_some_iff, forall_eq']

theorem checkRequest_eq_ok_iff {data : ConfirmationData} {expected : String} :
    checkRequest data expected = .ok () ↔ data.inResponseTo = some expected := by
  unfold checkRequest
  cases data.inResponseTo with
  | none => exact ⟨nofun, nofun⟩
  | some actual =>
    simp only [Option.some.injEq]
    by_cases same : actual = expected
    · rw [if_pos same]
      exact iff_of_true rfl same
    · rw [if_neg same]
      exact iff_of_false nofun same

/-- **The check accepts exactly the subjects that are confirmed.** -/
theorem check_eq_ok_iff {clock : Clock} {subject : Option Subject} {expected : String} :
    check clock subject expected = .ok () ↔
      ∃ s data latest earliest, subject = some s ∧ Confirms clock expected s data latest earliest := by
  cases subject with
  | none =>
    have refused : check clock none expected = .error .missingSubject := rfl
    rw [refused]
    exact iff_of_false nofun fun ⟨_, _, _, _, same, _⟩ => nomatch same
  | some s =>
    simp only [check, bind_eq_ok_iff, exists_unit_iff, single_eq_ok_iff, bearerData_eq_ok_iff,
      bounds_eq_ok_iff, checkWindow_eq_ok_iff, checkRequest_eq_ok_iff, throw_else_eq_ok_iff,
      not_isMissing_iff]
    constructor
    · rintro ⟨_, single, data, rfl, ⟨latest, earliest⟩, ⟨late, early⟩, ⟨begun, running⟩, request,
        nameId, -⟩
      exact ⟨s, data, latest, earliest, rfl, single, late, early, begun, running, request, nameId⟩
    · rintro ⟨_, data, latest, earliest, same, single, late, early, begun, running, request, nameId⟩
      obtain rfl := Option.some.inj same
      exact ⟨_, single, data, rfl, (latest, earliest), ⟨late, early⟩, ⟨begun, running⟩, request,
        nameId, rfl⟩

/-- A subject that is confirmed in answer to one request is refused in answer to any other, for naming the
one. -/
theorem check_of_other {clock : Clock} {subject : Option Subject} {expected other : String}
    (confirmed : check clock subject expected = .ok ()) (differ : other ≠ expected) :
    check clock subject other = .error (.inResponseToMismatch other expected) := by
  obtain ⟨s, data, latest, earliest, rfl, confirms⟩ := check_eq_ok_iff.1 confirmed
  have only : single s = .ok ⟨bearerMethod, some data⟩ := single_eq_ok_iff.2 confirms.single
  have held : bearerData ⟨bearerMethod, some data⟩ = .ok data := bearerData_eq_ok_iff.2 rfl
  have readings : clock.bounds = .ok (latest, earliest) :=
    bounds_eq_ok_iff.2 ⟨confirms.latestReading, confirms.earliestReading⟩
  have window : checkWindow data latest earliest = .ok () :=
    checkWindow_eq_ok_iff.2 ⟨confirms.begun, confirms.running⟩
  have request : checkRequest data other = .error (.inResponseToMismatch other expected) := by
    rw [checkRequest, confirms.request]
    exact if_neg differ.symm
  simp only [check, only, held, readings, window, request, ok_bind, error_bind]

end Confirmation
end RelyingParty
