import RelyingParty.Config.Wiring
import RelyingParty.Proofs.Config.ReadBack
import RelyingParty.Proofs.Confirmation.Window

/-!
# The skew that settings stand for

Whatever number of seconds settings hold, the clock is checked with a skew of at most a day. Such a skew is
supported and stays in range, and no confirmation that ended a day ago or earlier is accepted.
-/

namespace RelyingParty
set_option autoImplicit false
open Calendar Confirmation

namespace Config

namespace Settings

/-- Settings that were loaded, from variables or from a document. -/
def Loaded (s : Settings) : Prop :=
  (∃ lookup, ofVariables lookup = .ok s) ∨ ∃ text, ofText text = .ok s

theorem Loaded.validate {s : Settings} (loaded : s.Loaded) : s.validate = .ok () := by
  rcases loaded with ⟨_, given⟩ | ⟨_, read⟩
  · exact validate_of_ofVariables given
  · exact validate_of_ofText read

theorem clock_eq (s : Settings) (now : Instant) :
    s.clock now = ⟨now, .seconds (max 0 (min s.clockSkewSeconds.toInt 86400))⟩ := rfl

/-- The seconds that settings stand for. -/
theorem seconds?_clockSkew (s : Settings) :
    Span.seconds? (max 0 (min s.clockSkewSeconds.toInt 86400)) = some s.clockSkew := by
  have within : (max 0 (min s.clockSkewSeconds.toInt 86400)).natAbs * 1000 ≤ 86400000 := by omega
  rw [Span.seconds?_eq_some_iff]
  exact ⟨Nat.lt_of_le_of_lt within (by decide), rfl⟩

theorem Loaded.seconds?_clockSkew {s : Settings} (loaded : s.Loaded) :
    Span.seconds? s.clockSkewSeconds.toInt = some s.clockSkew := by
  obtain ⟨⟨low, high⟩, -⟩ := validate_eq_ok_iff.1 loaded.validate
  rw [← Settings.seconds?_clockSkew, Int.min_eq_left high, Int.max_eq_right low]

end Settings

/-- **No skew in settings is too long or out of range.** Settings stand for their seconds, brought into a day,
which is a supported length of time; for settings that were loaded these are the seconds themselves. So at a
reading a day inside the supported instants no subject is refused for the skew, and none is accepted whose
confirmation ended a day before the reading. -/
theorem skew_brought_into_day (s : Settings) {now : Instant} (inside : now.DayInside) :
    Span.seconds? (max 0 (min s.clockSkewSeconds.toInt 86400)) = some s.clockSkew ∧
      (s.Loaded → Span.seconds? s.clockSkewSeconds.toInt = some s.clockSkew) ∧
      (∀ subject expected,
        check (s.clock now) subject expected =
            check ⟨now, .seconds (max 0 (min s.clockSkewSeconds.toInt 86400))⟩ subject expected ∧
          check (s.clock now) subject expected ≠ .error .clockSkewOutOfRange) ∧
      ∃ dayBefore, now.shift? (.seconds (-86400)) = some dayBefore ∧
        ∀ subject expected, ∀ c ∈ subject.confirmations, ∀ data t, c.data = some data →
          data.notOnOrAfter = some t → t ≤ dayBefore →
            check (s.clock now) (some subject) expected ≠ .ok () := by
  have supported : ∃ readings, (s.clock now).bounds = .ok readings := by
    rw [s.clock_eq, exists_bounds_seconds_iff]
    exact ⟨inside.supported (by omega) (by omega), inside.supported (by omega) (by omega)⟩
  obtain ⟨dayBefore, less⟩ := Instant.exists_shift?_seconds_iff.2 (inside.supported Int.le_rfl (by decide))
  refine ⟨s.seconds?_clockSkew, Settings.Loaded.seconds?_clockSkew, fun subject expected => ⟨?same, ?range⟩,
    dayBefore, less, ?ended⟩
  case same => rw [s.clock_eq]
  case range => exact check_ne_clockSkewOutOfRange supported
  case ended =>
    intro subject expected c member data t held stop ended accepted
    rw [s.clock_eq] at accepted
    have later := lt_notOnOrAfter_of_check (by omega) accepted less member held stop
    exact Instant.not_lt.2 ended later

namespace Sample
open Confirmation.Sample (newYear)

theorem ten_lt : 10 < 86400 := by decide

/-- Ten seconds into the second day of the year 2017. -/
def secondDay : Instant := { newYear 10 ten_lt with date := ⟨17168, by decide, by decide⟩ }

/-- Settings with as many seconds of skew as 64 bits hold, which were never loaded. -/
def unlimited : Settings := { settings with clockSkewSeconds := Int64.maxValue }

end Sample

open Confirmation.Sample (subject newYear) in
/-- The confirmation ends a day before the reading, to the second. -/
theorem skew_brought_into_day_unlimited :
    Sample.secondDay.DayInside ∧ Sample.settings.Loaded ∧
      Span.seconds? 86400 = some Sample.settings.clockSkew ∧
      Span.seconds? 86400 = some Sample.unlimited.clockSkew ∧
      check (Sample.unlimited.clock Sample.secondDay) (some subject) "request-1" ≠ .ok () := by
  have inside : Sample.secondDay.DayInside := ⟨by decide, by decide⟩
  have loaded : Sample.settings.Loaded := .inl ⟨Sample.lookup, by decide +kernel⟩
  obtain ⟨-, same, -⟩ := skew_brought_into_day Sample.settings inside
  obtain ⟨day, -, -, dayBefore, less, ended⟩ := skew_brought_into_day Sample.unlimited inside
  have before : Sample.secondDay.shift? (.seconds (-86400)) = some (newYear 10 Sample.ten_lt) := rfl
  obtain rfl := Option.some.inj (less.symm.trans before)
  exact ⟨inside, loaded, same loaded, day,
    ended _ _ _ (List.mem_singleton_self _) _ _ rfl rfl (Int.le_refl _)⟩

end Config
end RelyingParty
