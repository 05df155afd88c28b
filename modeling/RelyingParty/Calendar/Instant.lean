import RelyingParty.Calendar.Date

/-!
# Instants

An instant is a second of a date in UTC and the nanoseconds into that second. A leap second is kept
as the second before it with more than a whole second of nanoseconds. Instants are ordered by `ticks`, a
count that leaves room for an extra second after every second.
-/

namespace RelyingParty.Calendar
set_option autoImplicit false

/-- The nanoseconds of a second. -/
def second : Nat := 1000000000

/-- The seconds of a day. -/
def secondsPerDay : Nat := 86400

/-- A supported instant. -/
structure Instant where
  date : Date
  /-- The second of the day. -/
  secondOfDay : Nat
  /-- The nanoseconds into the second, a whole second or more inside a leap second. -/
  nano : Nat
  second_lt : secondOfDay < 86400
  nano_lt : nano < 2000000000
deriving DecidableEq

/-- A length of time, of either sign. -/
structure Span where
  nanoseconds : Int
deriving DecidableEq

/-- A number of seconds. -/
def Span.seconds (n : Int) : Span := ⟨n * second⟩

/-- A number of seconds, when the length is supported: its milliseconds have to fit 64 bits either way. -/
def Span.seconds? (n : Int) : Option Span :=
  if n.natAbs * 1000 < Nat.pow 2 63 then some (seconds n) else none

/-- A number of milliseconds. -/
def Span.milliseconds (n : Int) : Span := ⟨n * 1000000⟩

/-- The same length the other way. -/
def Span.neg (s : Span) : Span := ⟨-s.nanoseconds⟩

namespace Instant

/-- The position of an instant in the order of instants. -/
def ticks (t : Instant) : Int :=
  (t.date.day * secondsPerDay + t.secondOfDay) * (2 * second : Nat) + t.nano

instance : LE Instant := ⟨fun a b => a.ticks ≤ b.ticks⟩

instance : LT Instant := ⟨fun a b => a.ticks < b.ticks⟩

instance (a b : Instant) : Decidable (a ≤ b) := inferInstanceAs (Decidable (a.ticks ≤ b.ticks))

instance (a b : Instant) : Decidable (a < b) := inferInstanceAs (Decidable (a.ticks < b.ticks))

/-- Whether the instant lies inside a leap second. -/
def isLeap (t : Instant) : Bool := decide (second ≤ t.nano)

/-- The instant is in no leap second but one that ends a minute. Documents hold no other instants. -/
def Legible (t : Instant) : Prop := second ≤ t.nano → t.secondOfDay % 60 = 59

instance (t : Instant) : Decidable t.Legible :=
  inferInstanceAs (Decidable (second ≤ t.nano → t.secondOfDay % 60 = 59))

/-- The nanoseconds since 1970 at an instant, with a leap second counted as the second after it. -/
def nanoseconds (t : Instant) : Int :=
  (t.date.day * secondsPerDay + t.secondOfDay) * second + t.nano

/-- The instant outside leap seconds at a number of nanoseconds since 1970, when it is supported. -/
def ofNanoseconds? (total : Int) : Option Instant :=
  (Date.ofDay? (total / (second * secondsPerDay : Nat))).map fun date =>
    { date
      secondOfDay := (total / second % secondsPerDay).toNat
      nano := (total % second).toNat
      second_lt := by simp only [secondsPerDay]; omega
      nano_lt := by simp only [second]; omega }

/-- The nanoseconds into the second after a move inside one leap second. -/
def nanoAfter (t : Instant) (s : Span) : Int := t.nano + s.nanoseconds

/-- Whether a move starts inside a leap second, spans less than a second back, and does not leave the
leap second forwards. -/
def staysInLeap (t : Instant) (s : Span) : Bool :=
  t.isLeap && decide (-(second : Int) < s.nanoseconds) && decide (t.nanoAfter s < (2 * second : Nat))

theorem nanoAfter_lt_of_stays {t : Instant} {s : Span} (h : t.staysInLeap s = true) :
    t.nanoAfter s < 2000000000 := by
  simp only [staysInLeap, Bool.and_eq_true, decide_eq_true_eq] at h
  exact h.2

/-- The instant a length of time later, when it is supported. Going forward out of a leap second
drops the extra second first; going back by a second or more starts from the second after it. -/
def shift? (t : Instant) (s : Span) : Option Instant :=
  if h : t.staysInLeap s then
    some { t with
      nano := (t.nanoAfter s).toNat
      nano_lt := by have := nanoAfter_lt_of_stays h; omega }
  else if t.isLeap ∧ 0 < s.nanoseconds then ofNanoseconds? (t.nanoseconds - second + s.nanoseconds)
  else ofNanoseconds? (t.nanoseconds + s.nanoseconds)

end Instant
end RelyingParty.Calendar
