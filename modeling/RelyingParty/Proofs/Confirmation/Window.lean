import RelyingParty.Proofs.Calendar.Shift
import RelyingParty.Proofs.Confirmation

/-!
# The window of a confirmation

A subject is refused for the first check that fails. Only those of the window depend on the clock: as time
goes by, a confirmation is first not yet valid, then accepted, then expired, and never goes back. A larger
skew opens the window no later and closes it no earlier.
-/

namespace RelyingParty
set_option autoImplicit false
open Calendar

namespace Confirmation

/-! ## What a subject is refused for -/

/-- The window has opened at the latest reading of a clock. -/
def Begun (data : ConfirmationData) (latest : Instant) : Prop :=
  ∀ t ∈ data.notBefore, t ≤ latest

/-- The window has opened at the latest reading of a clock and not closed at the earliest. -/
def IsOpen (data : ConfirmationData) (latest earliest : Instant) : Prop :=
  Begun data latest ∧ ∃ t, data.notOnOrAfter = some t ∧ earliest < t

/-- A subject has one confirmation, with some data for its bearer, and the clock may stand for readings from
the earliest to the latest. -/
structure Judged (clock : Clock) (s : Subject) (data : ConfirmationData) (latest earliest : Instant) :
    Prop where
  single : s.confirmations = [⟨bearerMethod, some data⟩]
  readings : clock.bounds = .ok (latest, earliest)

/-- What a subject is refused for, in the order of the checks. -/
inductive Refused (clock : Clock) (expected : String) : Option Subject → SubjectError → Prop
  | absent : Refused clock expected none .missingSubject
  | count {s : Subject} (others : s.confirmations.length ≠ 1) :
    Refused clock expected (some s) (.exactlyOneConfirmationExpected s.confirmations.length)
  | method {s : Subject} {c : Confirmation} (single : s.confirmations = [c])
    (other : c.method ≠ bearerMethod) :
    Refused clock expected (some s) (.invalidConfirmationMethod c.method)
  | noData {s : Subject} (single : s.confirmations = [⟨bearerMethod, none⟩]) :
    Refused clock expected (some s) .missingConfirmationData
  | skew {s : Subject} {data : ConfirmationData} (single : s.confirmations = [⟨bearerMethod, some data⟩])
    (unsupported : ∀ readings, clock.bounds ≠ .ok readings) :
    Refused clock expected (some s) .clockSkewOutOfRange
  | early {s : Subject} {data : ConfirmationData} {latest earliest t : Instant}
    (judged : Judged clock s data latest earliest) (start : data.notBefore = some t) (before : latest < t) :
    Refused clock expected (some s) (.notYetValid t)
  | unlimited {s : Subject} {data : ConfirmationData} {latest earliest : Instant}
    (judged : Judged clock s data latest earliest) (begun : Begun data latest)
    (stop : data.notOnOrAfter = none) :
    Refused clock expected (some s) .missingNotOnOrAfter
  | late {s : Subject} {data : ConfirmationData} {latest earliest t : Instant}
    (judged : Judged clock s data latest earliest) (begun : Begun data latest)
    (stop : data.notOnOrAfter = some t) (ended : t ≤ earliest) :
    Refused clock expected (some s) (.expired t)
  | noRequest {s : Subject} {data : ConfirmationData} {latest earliest : Instant}
    (judged : Judged clock s data latest earliest) (window : IsOpen data latest earliest)
    (request : data.inResponseTo = none) :
    Refused clock expected (some s) .missingInResponseTo
  | otherRequest {s : Subject} {data : ConfirmationData} {latest earliest : Instant} {actual : String}
    (judged : Judged clock s data latest earliest) (window : IsOpen data latest earliest)
    (request : data.inResponseTo = some actual) (other : actual ≠ expected) :
    Refused clock expected (some s) (.inResponseToMismatch expected actual)
  | nameId {s : Subject} {data : ConfirmationData} {latest earliest : Instant}
    (judged : Judged clock s data latest earliest) (window : IsOpen data latest earliest)
    (request : data.inResponseTo = some expected) (missing : ¬Present s.nameId) :
    Refused clock expected (some s) .missingNameId

theorem throw_else_eq_error_iff {ε : Type} {refused : Prop} [Decidable refused] {failure e : ε} :
    (if refused then throw failure else pure () : Except ε Unit) = .error e ↔ refused ∧ failure = e := by
  by_cases holds : refused
  · rw [if_pos holds, throw_eq_error, Except.error.injEq, and_iff_right holds]
  · rw [if_neg holds]
    exact iff_of_false nofun fun refusal => holds refusal.1

theorem single_eq_error_iff {s : Subject} {e : SubjectError} :
    single s = .error e ↔
      s.confirmations.length ≠ 1 ∧ .exactlyOneConfirmationExpected s.confirmations.length = e := by
  unfold single
  split
  · rename_i only holds
    rw [holds]
    exact ⟨nofun, fun refused => absurd rfl refused.1⟩
  · rename_i others
    have several : s.confirmations.length ≠ 1 := by
      intro one
      obtain ⟨c, only⟩ := List.length_eq_one_iff.1 one
      exact others c only
    rw [Except.error.injEq, and_iff_right several]

theorem bearerData_eq_error_iff {c : Confirmation} {e : SubjectError} :
    bearerData c = .error e ↔
      (c.method ≠ bearerMethod ∧ .invalidConfirmationMethod c.method = e) ∨
      (c = ⟨bearerMethod, none⟩ ∧ .missingConfirmationData = e) := by
  obtain ⟨method, held⟩ := c
  unfold bearerData
  by_cases bearer : method = bearerMethod
  · rw [if_neg (not_not_intro bearer)]
    cases held with
    | none => simp [bearer]
    | some data => simp [bearer]
  · rw [if_pos bearer]
    simp [bearer]

theorem bounds_eq_error_iff {clock : Clock} {e : SubjectError} :
    clock.bounds = .error e ↔ (∀ readings, clock.bounds ≠ .ok readings) ∧ .clockSkewOutOfRange = e := by
  unfold Clock.bounds
  split
  · exact ⟨nofun, fun refused => absurd rfl (refused.1 _)⟩
  · rw [Except.error.injEq, and_iff_right fun _ => nofun]

theorem checkWindow_eq_error_iff {data : ConfirmationData} {latest earliest : Instant} {e : SubjectError} :
    checkWindow data latest earliest = .error e ↔
      (∃ t, data.notBefore = some t ∧ latest < t ∧ .notYetValid t = e) ∨
      Begun data latest ∧ ((data.notOnOrAfter = none ∧ .missingNotOnOrAfter = e) ∨
        ∃ t, data.notOnOrAfter = some t ∧ t ≤ earliest ∧ .expired t = e) := by
  obtain ⟨_, notBefore, notOnOrAfter, _⟩ := data
  have closes : checkWindow ⟨none, none, notOnOrAfter, none⟩ latest earliest = .error e ↔
      (notOnOrAfter = none ∧ .missingNotOnOrAfter = e) ∨
      ∃ t, notOnOrAfter = some t ∧ t ≤ earliest ∧ .expired t = e := by
    unfold checkWindow
    cases notOnOrAfter with
    | none => simp [throw_eq_error]
    | some t =>
      by_cases ended : t ≤ earliest
      · simp [ended, throw_eq_error]
      · simp [ended, pure, Except.pure]
  rw [← closes]
  cases notBefore with
  | none => simp [Begun, checkWindow]
  | some t =>
    by_cases early : latest < t
    · simp [Begun, checkWindow, early, throw_eq_error, error_bind, Instant.not_le.2 early]
    · simp [Begun, checkWindow, early, Instant.not_lt.1 early]

theorem checkRequest_eq_error_iff {data : ConfirmationData} {expected : String} {e : SubjectError} :
    checkRequest data expected = .error e ↔
      (data.inResponseTo = none ∧ .missingInResponseTo = e) ∨
      ∃ actual, data.inResponseTo = some actual ∧ actual ≠ expected ∧
        .inResponseToMismatch expected actual = e := by
  unfold checkRequest
  cases data.inResponseTo with
  | none => simp
  | some actual =>
    by_cases same : actual = expected
    · simp [same]
    · simp [same]

/-- Once its data and the readings of the clock are there, the window, the request and the identifier of a
subject are checked. -/
theorem check_of_judged {clock : Clock} {s : Subject} {data : ConfirmationData} {latest earliest : Instant}
    (judged : Judged clock s data latest earliest) (expected : String) :
    check clock (some s) expected = (do
      checkWindow data latest earliest
      checkRequest data expected
      if Text.isMissing s.nameId then throw .missingNameId) := by
  have data : bearerData ⟨bearerMethod, some data⟩ = .ok data := bearerData_eq_ok_iff.2 rfl
  simp only [check, single_eq_ok_iff.2 judged.single, data, judged.readings, ok_bind]

section Refusals

variable {clock : Clock} {subject : Option Subject} {expected : String} {e : SubjectError}

theorem check_of_refused (refused : Refused clock expected subject e) :
    check clock subject expected = .error e := by
  cases refused with
  | absent => rfl
  | count others =>
    simp only [check, single_eq_error_iff.2 ⟨others, rfl⟩, error_bind]
  | method single other =>
    simp only [check, single_eq_ok_iff.2 single, bearerData_eq_error_iff.2 (.inl ⟨other, rfl⟩), ok_bind,
      error_bind]
  | noData single =>
    simp only [check, single_eq_ok_iff.2 single, bearerData_eq_error_iff.2 (.inr ⟨rfl, rfl⟩), ok_bind,
      error_bind]
  | skew single unsupported =>
    simp only [check, single_eq_ok_iff.2 single, bearerData_eq_ok_iff.2 rfl,
      bounds_eq_error_iff.2 ⟨unsupported, rfl⟩, ok_bind, error_bind]
  | early judged start before =>
    rw [check_of_judged judged, checkWindow_eq_error_iff.2 (.inl ⟨_, start, before, rfl⟩), error_bind]
  | unlimited judged begun stop =>
    rw [check_of_judged judged, checkWindow_eq_error_iff.2 (.inr ⟨begun, .inl ⟨stop, rfl⟩⟩), error_bind]
  | late judged begun stop ended =>
    rw [check_of_judged judged, checkWindow_eq_error_iff.2 (.inr ⟨begun, .inr ⟨_, stop, ended, rfl⟩⟩),
      error_bind]
  | noRequest judged window request =>
    rw [check_of_judged judged, checkWindow_eq_ok_iff.2 window, ok_bind,
      checkRequest_eq_error_iff.2 (.inl ⟨request, rfl⟩), error_bind]
  | otherRequest judged window request other =>
    rw [check_of_judged judged, checkWindow_eq_ok_iff.2 window, ok_bind,
      checkRequest_eq_error_iff.2 (.inr ⟨_, request, other, rfl⟩), error_bind]
  | nameId judged window request missing =>
    rw [check_of_judged judged, checkWindow_eq_ok_iff.2 window, ok_bind,
      checkRequest_eq_ok_iff.2 request, ok_bind, if_pos (not_present_iff.1 missing), throw_eq_error]

theorem refused_of_check (failing : check clock subject expected = .error e) :
    Refused clock expected subject e := by
  cases subject with
  | none =>
    obtain rfl := Except.error.inj failing
    exact .absent
  | some s =>
    rcases bind_eq_error_iff.1 failing with count | ⟨c, single, counted⟩
    · obtain ⟨others, rfl⟩ := single_eq_error_iff.1 count
      exact .count others
    rw [single_eq_ok_iff] at single
    rcases bind_eq_error_iff.1 counted with data | ⟨data, held, given⟩
    · obtain ⟨other, rfl⟩ | ⟨rfl, rfl⟩ := bearerData_eq_error_iff.1 data
      · exact .method single other
      · exact .noData single
    obtain rfl := bearerData_eq_ok_iff.1 held
    rcases bind_eq_error_iff.1 given with skew | ⟨⟨latest, earliest⟩, readings, timed⟩
    · obtain ⟨unsupported, rfl⟩ := bounds_eq_error_iff.1 skew
      exact .skew single unsupported
    have judged : Judged clock s data latest earliest := ⟨single, readings⟩
    rcases bind_eq_error_iff.1 timed with closed | ⟨_, window, passed⟩
    · obtain ⟨t, start, before, rfl⟩ | ⟨begun, ⟨stop, rfl⟩ | ⟨t, stop, ended, rfl⟩⟩ :=
        checkWindow_eq_error_iff.1 closed
      · exact .early judged start before
      · exact .unlimited judged begun stop
      · exact .late judged begun stop ended
    rw [checkWindow_eq_ok_iff] at window
    rcases bind_eq_error_iff.1 passed with unanswered | ⟨_, request, answered⟩
    · obtain ⟨request, rfl⟩ | ⟨actual, request, other, rfl⟩ := checkRequest_eq_error_iff.1 unanswered
      · exact .noRequest judged window request
      · exact .otherRequest judged window request other
    rw [checkRequest_eq_ok_iff] at request
    obtain ⟨missing, rfl⟩ := throw_else_eq_error_iff.1 answered
    exact .nameId judged window request (not_present_iff.2 missing)

/-- **The check reports the first failure.** -/
theorem check_eq_error_iff : check clock subject expected = .error e ↔ Refused clock expected subject e :=
  ⟨refused_of_check, check_of_refused⟩

/-- No subject is refused for the skew when the clock has its readings. -/
theorem check_ne_clockSkewOutOfRange (supported : ∃ readings, clock.bounds = .ok readings) :
    check clock subject expected ≠ .error .clockSkewOutOfRange := by
  intro refused
  cases check_eq_error_iff.1 refused with
  | skew single unsupported =>
    obtain ⟨readings, there⟩ := supported
    exact unsupported readings there

end Refusals

/-! ## Readings of a clock in order -/

/-- A reading outside leap seconds, with supported instants a skew away from it on both sides. -/
structure Clock.Steady (c : Clock) : Prop where
  plain : c.now.isLeap = false
  supported : ∃ readings, c.bounds = .ok readings

section Readings

variable {skew : Span} {first now last : Instant} {latest earliest latest' earliest' : Instant}

/-- Later readings stand for later instants. -/
theorem bounds_le (plain : first.isLeap = false) (plain' : last.isLeap = false) (order : first ≤ last)
    (readings : Clock.bounds ⟨first, skew⟩ = .ok (latest, earliest))
    (readings' : Clock.bounds ⟨last, skew⟩ = .ok (latest', earliest')) :
    latest ≤ latest' ∧ earliest ≤ earliest' := by
  obtain ⟨late, early⟩ := bounds_eq_ok_iff.1 readings
  obtain ⟨late', early'⟩ := bounds_eq_ok_iff.1 readings'
  exact ⟨Instant.shift?_le plain plain' order late late', Instant.shift?_le plain plain' order early early'⟩

theorem exists_bounds_between (plain : first.isLeap = false) (between : now.isLeap = false)
    (plain' : last.isLeap = false) (low : first ≤ now) (high : now ≤ last)
    (readings : Clock.bounds ⟨first, skew⟩ = .ok (latest, earliest))
    (readings' : Clock.bounds ⟨last, skew⟩ = .ok (latest', earliest')) :
    ∃ l e, Clock.bounds ⟨now, skew⟩ = .ok (l, e) := by
  obtain ⟨late, early⟩ := bounds_eq_ok_iff.1 readings
  obtain ⟨late', early'⟩ := bounds_eq_ok_iff.1 readings'
  obtain ⟨l, latest⟩ := Instant.exists_shift?_between plain between plain' low high late late'
  obtain ⟨e, earliest⟩ := Instant.exists_shift?_between plain between plain' low high early early'
  exact ⟨l, e, bounds_eq_ok_iff.2 ⟨latest, earliest⟩⟩

end Readings

/-- A window that is open at two times is open wherever the latest reading is no earlier than at the one and
the earliest no later than at the other. -/
theorem IsOpen.widen {data : ConfirmationData} {l l' e e' latest earliest : Instant}
    (opened : IsOpen data l e) (running : IsOpen data l' e') (late : l ≤ latest) (early : earliest ≤ e') :
    IsOpen data latest earliest := by
  obtain ⟨t, stop, before⟩ := running.2
  exact ⟨fun t start => Int.le_trans (opened.1 t start) late, t, stop, Int.lt_of_le_of_lt early before⟩

theorem Confirms.judged {clock : Clock} {expected : String} {s : Subject} {data : ConfirmationData}
    {latest earliest : Instant} (confirms : Confirms clock expected s data latest earliest) :
    Judged clock s data latest earliest :=
  ⟨confirms.single, bounds_eq_ok_iff.2 ⟨confirms.latestReading, confirms.earliestReading⟩⟩

theorem Confirms.isOpen {clock : Clock} {expected : String} {s : Subject} {data : ConfirmationData}
    {latest earliest : Instant} (confirms : Confirms clock expected s data latest earliest) :
    IsOpen data latest earliest :=
  ⟨confirms.begun, confirms.running⟩

/-- A subject that one clock confirms is accepted by any clock for which the window is open. -/
theorem Confirms.check {clock other : Clock} {expected : String} {s : Subject} {data : ConfirmationData}
    {l e latest earliest : Instant} (confirms : Confirms clock expected s data l e)
    (readings : other.bounds = .ok (latest, earliest)) (window : IsOpen data latest earliest) :
    check other (some s) expected = .ok () := by
  obtain ⟨late, early⟩ := bounds_eq_ok_iff.1 readings
  exact check_eq_ok_iff.2 ⟨s, data, latest, earliest, rfl, confirms.single, late, early, window.1, window.2,
    confirms.request, confirms.nameId⟩

/-- **A confirmation passes through its window once.** Of two clock readings, if it is not yet valid at the
later one it was not at the earlier, and if it has expired at the earlier one it has at the later; and
where it is accepted twice it is accepted at all times in between. -/
theorem passes_window_once (subject : Option Subject) (expected : String) (skew : Span) :
    (∀ now later t, Clock.Steady ⟨now, skew⟩ → Clock.Steady ⟨later, skew⟩ → now ≤ later →
      check ⟨later, skew⟩ subject expected = .error (.notYetValid t) →
        check ⟨now, skew⟩ subject expected = .error (.notYetValid t)) ∧
    (∀ now later t, Clock.Steady ⟨now, skew⟩ → Clock.Steady ⟨later, skew⟩ → now ≤ later →
      check ⟨now, skew⟩ subject expected = .error (.expired t) →
        check ⟨later, skew⟩ subject expected = .error (.expired t)) ∧
    ∀ first now last, first.isLeap = false → now.isLeap = false → last.isLeap = false →
      first ≤ now → now ≤ last →
      check ⟨first, skew⟩ subject expected = .ok () → check ⟨last, skew⟩ subject expected = .ok () →
        check ⟨now, skew⟩ subject expected = .ok () := by
  refine ⟨?notYet, ?ended, ?between⟩
  case notYet =>
    intro now later t steady steady' order refused
    obtain ⟨⟨latest, earliest⟩, readings⟩ := steady.supported
    cases refused_of_check refused with
    | early judged start before =>
      have sooner := (bounds_le steady.plain steady'.plain order readings judged.readings).1
      exact check_of_refused (.early ⟨judged.single, readings⟩ start (Int.lt_of_le_of_lt sooner before))
  case ended =>
    intro now later t steady steady' order refused
    obtain ⟨⟨latest, earliest⟩, readings⟩ := steady'.supported
    cases refused_of_check refused with
    | late judged begun stop ended =>
      obtain ⟨late, early⟩ := bounds_le steady.plain steady'.plain order judged.readings readings
      have still : Begun _ latest := fun t start => Int.le_trans (begun t start) late
      exact check_of_refused (.late ⟨judged.single, readings⟩ still stop (Int.le_trans ended early))
  case between =>
    intro first now last plain between plain' low high accepted accepted'
    obtain ⟨s, data, l, e, rfl, confirms⟩ := check_eq_ok_iff.1 accepted
    obtain ⟨s', data', l', e', same, confirms'⟩ := check_eq_ok_iff.1 accepted'
    obtain rfl := Option.some.inj same
    obtain rfl : data = data' := by simpa using confirms.single.symm.trans confirms'.single
    have readings := confirms.judged.readings
    have readings' := confirms'.judged.readings
    obtain ⟨latest, earliest, here⟩ := exists_bounds_between plain between plain' low high readings readings'
    have late := (bounds_le plain between low readings here).1
    have early := (bounds_le between plain' high here readings').2
    exact confirms.check here (confirms.isOpen.widen confirms'.isOpen late early)

namespace Sample

theorem start_nano_lt : 0 < 2000000000 := by decide

/-- A reading on the last day of the year 2016, before its leap second. -/
def oldYear (clock : Nat) (day : clock < 86400) : Instant :=
  ⟨⟨17166, by decide, by decide⟩, clock, 0, day, start_nano_lt⟩

/-- The middle of the leap second. -/
def leapSecond : Instant :=
  ⟨⟨17166, by decide, by decide⟩, 86399, 1500000000, by decide, by decide⟩

/-- A reading on the first day of the year 2017. -/
def newYear (clock : Nat) (day : clock < 86400) : Instant :=
  ⟨⟨17167, by decide, by decide⟩, clock, 0, day, start_nano_lt⟩

/-- A subject that is confirmed from the leap second to ten seconds after it. -/
def subject : Subject :=
  ⟨some "pid-1",
    [⟨bearerMethod, some ⟨some "request-1", some leapSecond, some (newYear 10 (by decide)), none⟩⟩]⟩

/-- What the check answers at a reading, with half a second to spare. -/
def answer (now : Instant) : Except SubjectError Unit :=
  check ⟨now, .milliseconds 500⟩ (some subject) "request-1"

end Sample

open Sample in
theorem passes_window_once_new_year :
    (answer (oldYear 86399 (by decide)) = .error (.notYetValid leapSecond) ∧
      answer (oldYear 86398 (by decide)) = .error (.notYetValid leapSecond)) ∧
    (answer (newYear 11 (by decide)) = .error (.expired (newYear 10 (by decide))) ∧
      answer (newYear 60 (by decide)) = .error (.expired (newYear 10 (by decide)))) ∧
    answer (newYear 0 (by decide)) = .ok () ∧ answer (newYear 10 (by decide)) = .ok () ∧
      answer (newYear 5 (by decide)) = .ok () := by
  obtain ⟨notYet, ended, between⟩ := passes_window_once (some subject) "request-1" (.milliseconds 500)
  refine ⟨⟨rfl, ?_⟩, ⟨rfl, ?_⟩, rfl, rfl, ?_⟩
  · exact notYet _ (oldYear 86399 (by decide)) _ ⟨rfl, _, rfl⟩ ⟨rfl, _, rfl⟩ (by decide) rfl
  · exact ended (newYear 11 (by decide)) _ _ ⟨rfl, _, rfl⟩ ⟨rfl, _, rfl⟩ (by decide) rfl
  · exact between (newYear 0 (by decide)) _ (newYear 10 (by decide)) rfl rfl rfl (by decide) (by decide)
      rfl rfl

/-! ## Skews in order -/

/-- The readings of a clock with a skew in whole seconds are there when both lie in supported dates. -/
theorem exists_bounds_seconds_iff {now : Instant} {n : Int} :
    (∃ readings, Clock.bounds ⟨now, .seconds n⟩ = .ok readings) ↔
      Instant.SupportedSecond (now.secondAfter n) ∧ Instant.SupportedSecond (now.secondAfter (-n)) := by
  rw [← Instant.exists_shift?_seconds_iff, ← Instant.exists_shift?_seconds_iff]
  simp only [bounds_eq_ok_iff, Span.neg_seconds]
  constructor
  · rintro ⟨⟨latest, earliest⟩, late, early⟩
    exact ⟨⟨latest, late⟩, ⟨earliest, early⟩⟩
  · rintro ⟨⟨latest, late⟩, ⟨earliest, early⟩⟩
    exact ⟨(latest, earliest), late, early⟩

/-- A larger skew stands for later instants, and for earlier ones. -/
theorem bounds_le_of_skew_le {now : Instant} {n m : Int} (le : n ≤ m)
    {latest earliest latest' earliest' : Instant}
    (readings : Clock.bounds ⟨now, .seconds n⟩ = .ok (latest, earliest))
    (readings' : Clock.bounds ⟨now, .seconds m⟩ = .ok (latest', earliest')) :
    latest ≤ latest' ∧ earliest' ≤ earliest := by
  obtain ⟨late, early⟩ := bounds_eq_ok_iff.1 readings
  obtain ⟨late', early'⟩ := bounds_eq_ok_iff.1 readings'
  simp only [Span.neg_seconds] at early early'
  exact ⟨Instant.shift?_seconds_le le late late', Instant.shift?_seconds_le (Int.neg_le_neg le) early' early⟩

/-- What is accepted with a skew ends after the reading of the clock less any larger one. -/
theorem lt_notOnOrAfter_of_check {now reading t : Instant} {n m : Int} {s : Subject} {expected : String}
    {c : Confirmation} {data : ConfirmationData} (le : n ≤ m)
    (accepted : check ⟨now, .seconds n⟩ (some s) expected = .ok ())
    (less : now.shift? (.seconds (-m)) = some reading) (member : c ∈ s.confirmations)
    (held : c.data = some data) (stop : data.notOnOrAfter = some t) : reading < t := by
  obtain ⟨_, data', latest, earliest, same, confirms⟩ := check_eq_ok_iff.1 accepted
  obtain rfl := Option.some.inj same
  obtain rfl : c = ⟨bearerMethod, some data'⟩ := by simpa [confirms.single] using member
  obtain rfl := Option.some.inj held
  obtain ⟨_, same, running⟩ := confirms.running
  obtain rfl := Option.some.inj (stop.symm.trans same)
  have early := confirms.earliestReading
  simp only [Span.neg_seconds] at early
  exact Int.lt_of_le_of_lt (Instant.shift?_seconds_le (Int.neg_le_neg le) less early) running

/-- **A larger skew only ever helps**, in whole seconds and even inside a leap second: what is accepted with
one is accepted with any larger one, unless this is out of range. A skew is out of range exactly when it
leads out of the supported dates on one of the two sides, for a subject that has got as far as its data. -/
theorem larger_skew_helps (now : Instant) (subject : Option Subject) (expected : String) :
    (∀ n m, n ≤ m → check ⟨now, .seconds n⟩ subject expected = .ok () →
      check ⟨now, .seconds m⟩ subject expected = .ok () ∨
        check ⟨now, .seconds m⟩ subject expected = .error .clockSkewOutOfRange) ∧
    ∀ n, check ⟨now, .seconds n⟩ subject expected = .error .clockSkewOutOfRange ↔
      (∃ s data, subject = some s ∧ s.confirmations = [⟨bearerMethod, some data⟩]) ∧
        ¬(Instant.SupportedSecond (now.secondAfter n) ∧ Instant.SupportedSecond (now.secondAfter (-n))) := by
  constructor
  · intro n m le accepted
    obtain ⟨s, data, l, e, rfl, confirms⟩ := check_eq_ok_iff.1 accepted
    cases there : Clock.bounds ⟨now, .seconds m⟩ with
    | error failure =>
      have unsupported := (bounds_eq_error_iff.1 there).1
      exact .inr (check_of_refused (.skew confirms.single unsupported))
    | ok readings =>
      obtain ⟨late, early⟩ := bounds_le_of_skew_le le confirms.judged.readings there
      exact .inl (confirms.check there (confirms.isOpen.widen confirms.isOpen late early))
  · intro n
    rw [check_eq_error_iff, ← exists_bounds_seconds_iff, not_exists]
    constructor
    · intro refused
      cases refused with
      | skew single unsupported => exact ⟨⟨_, _, rfl, single⟩, unsupported⟩
    · rintro ⟨⟨s, data, rfl, single⟩, unsupported⟩
      exact .skew single unsupported

open Sample in
/-- Inside the leap second the window has opened with no skew, and so it has with a second to spare; with
more seconds than the calendar has the skew is out of range. -/
theorem larger_skew_helps_leap :
    check ⟨leapSecond, .seconds 0⟩ (some subject) "request-1" = .ok () ∧
      (check ⟨leapSecond, .seconds 1⟩ (some subject) "request-1" = .ok () ∨
        check ⟨leapSecond, .seconds 1⟩ (some subject) "request-1" = .error .clockSkewOutOfRange) ∧
      check ⟨leapSecond, .seconds 10000000000000⟩ (some subject) "request-1" =
        .error .clockSkewOutOfRange := by
  obtain ⟨helps, range⟩ := larger_skew_helps leapSecond (some subject) "request-1"
  refine ⟨rfl, helps 0 1 (by decide) rfl, (range _).2 ⟨⟨_, _, rfl, rfl⟩, ?_⟩⟩
  rintro ⟨⟨-, late⟩, -⟩
  exact absurd late (by decide)

end Confirmation
end RelyingParty
