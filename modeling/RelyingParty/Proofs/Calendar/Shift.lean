import RelyingParty.Calendar.Instant

/-!
# Instants moved in time

Outside leap seconds a move keeps the order of instants, and leaves no gap. Moves by whole seconds keep it
inside a leap second too, which counts as itself when nothing is moved, as the second before the move when
time goes forward, and as the second after it when time goes back.
-/

namespace RelyingParty.Calendar
set_option autoImplicit false

theorem Date.exists_ofDay?_iff {day : Int} :
    (∃ d, Date.ofDay? day = some d) ↔ firstDay ≤ day ∧ day ≤ lastDay := by
  unfold Date.ofDay?
  by_cases supported : firstDay ≤ day ∧ day ≤ lastDay
  · rw [dif_pos supported]
    exact iff_of_true ⟨_, rfl⟩ supported
  · rw [dif_neg supported]
    exact iff_of_false (fun ⟨d, found⟩ => Option.some_ne_none d found.symm) supported

theorem Span.neg_seconds (n : Int) : (seconds n).neg = seconds (-n) :=
  congrArg mk (Int.neg_mul n second).symm

/-- The lengths of time in seconds that are supported. -/
theorem Span.seconds?_eq_some_iff {n : Int} {span : Span} :
    seconds? n = some span ↔ n.natAbs * 1000 < Nat.pow 2 63 ∧ seconds n = span := by
  unfold seconds?
  by_cases supported : n.natAbs * 1000 < Nat.pow 2 63
  · rw [if_pos supported, Option.some.injEq, and_iff_right supported]
  · rw [if_neg supported]
    exact iff_of_false nofun fun given => supported given.1

/-- A number of seconds of 64 bits can be too much. -/
example : Span.seconds? 9223372036854775 ≠ none ∧ Span.seconds? 9300000000000000 = none := by decide

namespace Instant

/-- The second that an instant is in, counted from 1970. -/
def secondNumber (t : Instant) : Int := t.date.day * secondsPerDay + t.secondOfDay

/-- A second of a supported date. -/
def SupportedSecond (n : Int) : Prop :=
  firstDay * secondsPerDay ≤ n ∧ n < (lastDay + 1) * secondsPerDay

/-- Instants are in the order of their seconds, and of their nanoseconds within one second. -/
theorem le_iff {a b : Instant} :
    a ≤ b ↔ a.secondNumber < b.secondNumber ∨ a.secondNumber = b.secondNumber ∧ a.nano ≤ b.nano := by
  have order : a ≤ b ↔ a.ticks ≤ b.ticks := Iff.rfl
  have lowA := a.nano_lt
  have lowB := b.nano_lt
  rw [order]
  simp only [ticks, secondNumber, second, secondsPerDay]
  omega

theorem eq_of_secondNumber {a b : Instant} (seconds : a.secondNumber = b.secondNumber)
    (nano : a.nano = b.nano) : a = b := by
  obtain ⟨⟨day, _, _⟩, clock, _, clock_lt, _⟩ := a
  obtain ⟨⟨day', _, _⟩, clock', _, clock_lt', _⟩ := b
  simp only [secondNumber, secondsPerDay] at seconds nano
  obtain rfl : day = day' := by omega
  obtain rfl : clock = clock' := by omega
  obtain rfl := nano
  rfl

theorem supported_secondNumber (t : Instant) : SupportedSecond t.secondNumber := by
  have first := t.date.first_le
  have last := t.date.le_last
  have clock := t.second_lt
  simp only [SupportedSecond, secondNumber, secondsPerDay]
  omega

/-! ## Instants at a number of nanoseconds -/

theorem exists_ofNanoseconds?_iff {total : Int} :
    (∃ t, ofNanoseconds? total = some t) ↔ SupportedSecond (total / second) := by
  have days : total / (second * secondsPerDay : Nat) = total / second / secondsPerDay := by
    rw [Int.natCast_mul, Int.ediv_ediv_of_nonneg (Int.natCast_nonneg _)]
  rw [← Option.isSome_iff_exists, ofNanoseconds?, Option.isSome_map, Option.isSome_iff_exists,
    Date.exists_ofDay?_iff, days, SupportedSecond]
  simp only [secondsPerDay]
  omega

theorem ofNanoseconds?_eq_some_iff {total : Int} {t : Instant} :
    ofNanoseconds? total = some t ↔ t.secondNumber = total / second ∧ (t.nano : Int) = total % second := by
  have at_total (u : Instant) (found : ofNanoseconds? total = some u) :
      u.secondNumber = total / second ∧ (u.nano : Int) = total % second := by
    unfold ofNanoseconds? Date.ofDay? at found
    split at found
    · obtain rfl := Option.some.inj found
      simp only [secondNumber, second, secondsPerDay]
      omega
    · cases found
  constructor
  · exact at_total t
  · rintro ⟨seconds, nano⟩
    obtain ⟨u, found⟩ := exists_ofNanoseconds?_iff.2 (seconds ▸ t.supported_secondNumber)
    obtain ⟨seconds', nano'⟩ := at_total u found
    rw [found, eq_of_secondNumber (seconds'.trans seconds.symm) (Int.ofNat.inj (nano'.trans nano.symm))]

theorem le_of_ofNanoseconds? {total total' : Int} {a b : Instant} (at_total : ofNanoseconds? total = some a)
    (at_total' : ofNanoseconds? total' = some b) (le : total ≤ total') : a ≤ b := by
  obtain ⟨seconds, nano⟩ := ofNanoseconds?_eq_some_iff.1 at_total
  obtain ⟨seconds', nano'⟩ := ofNanoseconds?_eq_some_iff.1 at_total'
  rw [le_iff]
  simp only [second] at seconds nano seconds' nano'
  omega

theorem nanoseconds_eq (t : Instant) : t.nanoseconds = t.secondNumber * second + t.nano := rfl

theorem staysInLeap_iff {t : Instant} {s : Span} :
    t.staysInLeap s = true ↔
      second ≤ t.nano ∧ -(second : Int) < s.nanoseconds ∧ t.nano + s.nanoseconds < (2 * second : Nat) := by
  simp only [staysInLeap, isLeap, Bool.and_eq_true, decide_eq_true_eq, and_assoc]
  rfl

/-! ## Moves outside leap seconds -/

section Plain

variable {a b c : Instant} {s : Span}

theorem nano_lt_of_plain (plain : a.isLeap = false) : a.nano < second :=
  Nat.lt_of_not_le (of_decide_eq_false plain)

theorem shift?_of_plain (plain : a.isLeap = false) (s : Span) :
    a.shift? s = ofNanoseconds? (a.nanoseconds + s.nanoseconds) := by
  have outside : ¬second ≤ a.nano := Nat.not_le.2 (nano_lt_of_plain plain)
  have leaves : ¬a.staysInLeap s = true := fun stays => outside (staysInLeap_iff.1 stays).1
  rw [shift?, dif_neg leaves, if_neg]
  rw [plain]
  exact fun inside => nomatch inside.1

theorem nanoseconds_le_of_plain (plain : a.isLeap = false) (le : a ≤ b) :
    a.nanoseconds ≤ b.nanoseconds := by
  have small := nano_lt_of_plain plain
  rw [le_iff] at le
  rw [nanoseconds_eq, nanoseconds_eq]
  simp only [second] at small ⊢
  omega

/-- Moves by the same length keep the order of instants. -/
theorem shift?_le (plain : a.isLeap = false) (plain' : b.isLeap = false) (le : a ≤ b) {a' b' : Instant}
    (moved : a.shift? s = some a') (moved' : b.shift? s = some b') : a' ≤ b' := by
  rw [shift?_of_plain plain] at moved
  rw [shift?_of_plain plain'] at moved'
  have before := nanoseconds_le_of_plain plain le
  exact le_of_ofNanoseconds? moved moved' (by omega)

/-- What lies between instants that can be moved can be moved as well. -/
theorem exists_shift?_between (plainA : a.isLeap = false) (plainB : b.isLeap = false)
    (plainC : c.isLeap = false) (low : a ≤ b) (high : b ≤ c) {a' c' : Instant}
    (first : a.shift? s = some a') (last : c.shift? s = some c') : ∃ b', b.shift? s = some b' := by
  rw [shift?_of_plain plainA] at first
  rw [shift?_of_plain plainC] at last
  rw [shift?_of_plain plainB, exists_ofNanoseconds?_iff]
  have start := exists_ofNanoseconds?_iff.1 ⟨a', first⟩
  have stop := exists_ofNanoseconds?_iff.1 ⟨c', last⟩
  have before := nanoseconds_le_of_plain plainA low
  have after := nanoseconds_le_of_plain plainB high
  simp only [SupportedSecond, secondsPerDay, second] at start stop ⊢
  omega

end Plain

/-! ## Moves by whole seconds -/

/-- The second that an instant is in after a move by whole seconds. Going back, a leap second counts as the
second after it. -/
def secondAfter (t : Instant) (n : Int) : Int :=
  t.secondNumber + n + if t.isLeap = true ∧ n < 0 then 1 else 0

theorem shift?_seconds_zero (t : Instant) : t.shift? (.seconds 0) = some t := by
  cases inside : t.isLeap with
  | false =>
    have small := nano_lt_of_plain inside
    rw [shift?_of_plain inside, ofNanoseconds?_eq_some_iff, nanoseconds_eq]
    simp only [Span.seconds, second] at small ⊢
    omega
  | true =>
    have large : second ≤ t.nano := of_decide_eq_true inside
    have nano := t.nano_lt
    have stays : t.staysInLeap (.seconds 0) = true := by
      rw [staysInLeap_iff]
      simp only [Span.seconds, second] at large ⊢
      omega
    rw [shift?, dif_pos stays]
    simp [nanoAfter, Span.seconds]

theorem shift?_seconds_of_ne {t : Instant} {n : Int} (moves : n ≠ 0) :
    t.shift? (.seconds n) = ofNanoseconds? (t.secondAfter n * second + (t.nano % second : Nat)) := by
  have nano := t.nano_lt
  cases inside : t.isLeap with
  | false =>
    have small := nano_lt_of_plain inside
    rw [shift?_of_plain inside, secondAfter, inside, Nat.mod_eq_of_lt small, nanoseconds_eq]
    congr 1
    simp only [Span.seconds, second, Bool.false_eq_true, false_and, if_false]
    omega
  | true =>
    have large : second ≤ t.nano := of_decide_eq_true inside
    have leaves : ¬t.staysInLeap (.seconds n) = true := by
      rw [staysInLeap_iff]
      simp only [Span.seconds, second] at large ⊢
      omega
    rw [shift?, dif_neg leaves, secondAfter, inside, nanoseconds_eq]
    simp only [Span.seconds, second, true_and] at large ⊢
    by_cases forward : 0 < n
    · rw [if_pos (by omega), if_neg (by omega)]
      congr 1
      omega
    · rw [if_neg (by omega), if_pos (by omega)]
      congr 1
      omega

/-- Where a move by whole seconds leads, when it leads anywhere. -/
theorem shift?_seconds_eq_some {t u : Instant} {n : Int} (moved : t.shift? (.seconds n) = some u) :
    u.secondNumber = t.secondAfter n ∧ u.nano = if n = 0 then t.nano else t.nano % second := by
  by_cases still : n = 0
  · subst still
    rw [shift?_seconds_zero] at moved
    obtain rfl := Option.some.inj moved
    simp [secondAfter]
  · rw [shift?_seconds_of_ne still, ofNanoseconds?_eq_some_iff] at moved
    rw [if_neg still]
    simp only [second] at moved ⊢
    omega

/-- A move by whole seconds leads somewhere when it ends in a second of a supported date. -/
theorem exists_shift?_seconds_iff {t : Instant} {n : Int} :
    (∃ u, t.shift? (.seconds n) = some u) ↔ SupportedSecond (t.secondAfter n) := by
  by_cases still : n = 0
  · subst still
    have same : t.secondAfter 0 = t.secondNumber := by simp [secondAfter]
    rw [same, shift?_seconds_zero]
    exact iff_of_true ⟨t, rfl⟩ t.supported_secondNumber
  · have whole : (t.secondAfter n * second + (t.nano % second : Nat)) / second = t.secondAfter n := by
      simp only [second]
      omega
    rw [shift?_seconds_of_ne still, exists_ofNanoseconds?_iff, whole]

/-- Of two moves by whole seconds the longer one leads no less far, even from inside a leap second. -/
theorem shift?_seconds_le {t u v : Instant} {n m : Int} (le : n ≤ m)
    (moved : t.shift? (.seconds n) = some u) (further : t.shift? (.seconds m) = some v) : u ≤ v := by
  obtain ⟨second_u, nano_u⟩ := shift?_seconds_eq_some moved
  obtain ⟨second_v, nano_v⟩ := shift?_seconds_eq_some further
  have inside : t.isLeap = true ↔ second ≤ t.nano := decide_eq_true_iff
  have nano := t.nano_lt
  rw [le_iff, second_u, second_v, nano_u, nano_v]
  simp only [secondAfter, inside, second]
  split <;> split <;> split <;> split <;> omega

/-! ## A day inside the supported instants -/

/-- An instant in a second that is at least a day after the first supported one and a day before the last. -/
structure DayInside (t : Instant) : Prop where
  after : firstDay * secondsPerDay + secondsPerDay ≤ t.secondNumber
  before : t.secondNumber + secondsPerDay < (lastDay + 1) * secondsPerDay

/-- Moves of up to a day lead from there to supported seconds, even from inside a leap second. -/
theorem DayInside.supported {t : Instant} (inside : t.DayInside) {n : Int} (back : -86400 ≤ n)
    (forward : n ≤ 86400) : SupportedSecond (t.secondAfter n) := by
  have after := inside.after
  have before := inside.before
  simp only [secondAfter, SupportedSecond, secondsPerDay] at after before ⊢
  split <;> omega

end Instant
end RelyingParty.Calendar
