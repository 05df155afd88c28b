import RelyingParty.Calendar.InstantText
import RelyingParty.Proofs.Calendar.DateText
import RelyingParty.Proofs.Success

/-!
# Instants read back from their text

The text of an instant gives its date, its time of day and, for a leap second at the end of a minute, second
60. Reading puts them together again. It gives legible instants only, and each of them from its own text.
-/

namespace RelyingParty.Calendar
set_option autoImplicit false

/-- Decimals up to the ninth are taken at their place. -/
theorem scanFraction_point (w n : Nat) {rest : List Char} (places : w + 1 ≤ 9) (h : n < 10 ^ (w + 1))
    (stop : Text.NoDigit rest) :
    scanFraction ('.' :: Text.paddedDigits (w + 1) n ++ rest) =
      some (n * 10 ^ (9 - (w + 1)), rest) := by
  have length := Text.length_paddedDigits w n h
  have all : (Text.paddedDigits (w + 1) n).take 9 = Text.paddedDigits (w + 1) n :=
    List.take_of_length_le (by omega)
  simp only [scanFraction, List.cons_append,
    Text.spanDigits_append (Text.isDigit_of_mem_paddedDigits (w + 1) n) stop,
    if_neg (Text.paddedDigits_ne_nil _ _), all, Text.ofDigits_paddedDigits, length, Nat.pow_eq]

theorem scanFraction_of_ne {rest : List Char} (point : rest.head? ≠ some '.') :
    scanFraction rest = some (0, rest) := by
  unfold scanFraction
  split
  · exact absurd rfl point
  · rfl

/-- The nanoseconds are read back from the decimals that are written. -/
theorem scanFraction_fractionChars (nano : Nat) {rest : List Char} (h : nano < 10 ^ 9)
    (stop : Text.NoDigit rest) (point : rest.head? ≠ some '.') :
    scanFraction (fractionChars nano ++ rest) = some (nano, rest) := by
  unfold fractionChars
  split
  · next none => rw [none]; exact scanFraction_of_ne point
  · split
    · next millis =>
      rw [scanFraction_point 2 (nano / 1000000) (by decide) (by omega) stop]
      congr 2
      omega
    · split
      · next micros =>
        rw [scanFraction_point 5 (nano / 1000) (by decide) (by omega) stop]
        congr 2
        omega
      · rw [scanFraction_point 8 nano (by decide) h stop]
        congr 2
        omega

theorem skipBlanks_colon (cs : List Char) : Text.skipBlanks (':' :: cs) = ':' :: cs := by
  simp [Text.skipBlanks, show Text.isBlank ':' = false by decide]

/-- The characters of a time of day. -/
def LocalTime.chars (t : LocalTime) : List Char :=
  Text.paddedDigits 2 t.hour ++ ':' :: Text.paddedDigits 2 t.minute
    ++ ':' :: Text.paddedDigits 2 t.second ++ fractionChars t.nano

theorem scanLocalTime_chars (t : LocalTime) (rest : List Char) (hour : t.hour < 10 ^ 2)
    (minute : t.minute < 10 ^ 2) (second : t.second < 10 ^ 2) (nano : t.nano < 10 ^ 9)
    (stop : Text.NoDigit rest) (point : rest.head? ≠ some '.') :
    scanLocalTime (t.chars ++ rest) = some (t, rest) := by
  simp only [scanLocalTime, LocalTime.chars, List.append_assoc, List.cons_append,
    scanNumber_paddedDigits 1 _ _ hour, scanNumber_paddedDigits 1 _ _ minute,
    scanNumber_paddedDigits 1 _ _ second, skipBlanks_colon, scanChar, if_true, Option.bind_eq_bind,
    Option.bind_some, scanFraction_fractionChars t.nano nano stop point]
  rfl

namespace Instant

/-- The time of day of an instant as it is written, with a leap second as the next second. -/
def localTime (t : Instant) : LocalTime :=
  ⟨t.secondOfDay / 3600, t.secondOfDay / 60 % 60, t.secondOfDay % 60 + t.nano / 1000000000,
    t.nano % 1000000000⟩

theorem localChars_eq (t : Instant) : t.localChars = t.date.chars ++ 'T' :: t.localTime.chars := by
  simp only [localChars, LocalTime.chars, localTime, List.append_assoc, List.cons_append]

theorem second_localTime_le {t : Instant} (legible : t.Legible) : t.localTime.second ≤ 60 := by
  have := t.nano_lt
  have ends : 1000000000 ≤ t.nano → t.secondOfDay % 60 = 59 := legible
  simp only [localTime]
  omega

/-- Clocks that are `offset` minutes ahead show `here` at the instant `t`. -/
structure Shows (offset : Int) (here t : Instant) : Prop where
  seconds : secondsPerDay * here.date.day + here.secondOfDay =
    secondsPerDay * t.date.day + t.secondOfDay + 60 * offset
  nano : here.nano = t.nano

theorem Shows.refl (t : Instant) : Shows 0 t t :=
  ⟨by omega, rfl⟩

/-- Offsets are whole minutes, so a minute ends everywhere at once. -/
theorem Shows.legible {offset : Int} {here t : Instant} (shows : Shows offset here t)
    (legible : t.Legible) : here.Legible := by
  obtain ⟨seconds, fraction⟩ := shows
  simp only [secondsPerDay] at seconds
  intro inside
  have ends := legible (fraction ▸ inside)
  omega

/-- An instant is put together again from the date and the time of day that clocks show. -/
theorem Shows.ofLocal? {offset : Int} {here t : Instant} (shows : Shows offset here t)
    (legible : t.Legible) : Instant.ofLocal? here.date here.localTime offset = some t := by
  have sixty := second_localTime_le (shows.legible legible)
  obtain ⟨seconds, fraction⟩ := shows
  obtain ⟨date, clock, nano, clock_lt, nano_lt⟩ := t
  have ends : 1000000000 ≤ nano → clock % 60 = 59 := legible
  obtain ⟨day, time, nano, time_lt, _⟩ := here
  simp only at seconds fraction
  subst fraction
  have sameSecond : time % 60 = clock % 60 := by simp only [secondsPerDay] at seconds; omega
  have bounds : time / 3600 < 24 ∧ time / 60 % 60 < 60 ∧ time % 60 + nano / 1000000000 ≤ 60 ∧
      nano % 1000000000 < 1000000000 := ⟨by omega, by omega, sixty, by omega⟩
  have minute : (60 * (time / 3600 : Nat) + (time / 60 % 60 : Nat) - offset : Int) =
      1440 * (date.day - day.day) + (clock / 60 : Nat) := by
    simp only [secondsPerDay] at seconds
    omega
  have today : day.day + (1440 * (date.day - day.day) + (clock / 60 : Nat)) / 1440 = date.day := by omega
  have within : ((1440 * (date.day - day.day) + (clock / 60 : Nat)) % 1440).toNat = clock / 60 := by omega
  have same : Date.ofDay? date.day = some date := by
    rw [Date.ofDay?, dif_pos ⟨date.first_le, date.le_last⟩]
  simp only [Instant.ofLocal?, localTime, dif_pos bounds, minute, today, within, same, Option.map_some,
    Option.some.injEq]
  split
  · next sixty =>
    rw [Instant.mk.injEq]
    exact ⟨rfl, by omega, by omega⟩
  · next before =>
    have small : nano < 1000000000 := by omega
    rw [Instant.mk.injEq]
    exact ⟨rfl, by omega, by omega⟩

/-- An instant is read from what clocks show and how far they are ahead. -/
theorem Shows.ofText? {offset : Int} {here t : Instant} (shows : Shows offset here t)
    (legible : t.Legible) {zone : List Char} (stop : Text.NoDigit zone) (point : zone.head? ≠ some '.')
    (start : Text.skipBlanks zone = zone) (scan : scanOffset zone = some (offset, [])) :
    Instant.ofText? (String.ofList (here.localChars ++ zone)) = some t := by
  have second := second_localTime_le (shows.legible legible)
  have lt := here.second_lt
  have time := scanLocalTime_chars here.localTime zone (by simp only [localTime]; omega)
    (by simp only [localTime]; omega) (by omega) (by simp only [localTime]; omega) stop point
  simp only [Instant.ofText?, String.toList_ofList, localChars_eq, List.append_assoc, List.cons_append,
    Date.scanCivil_chars Text.skipBlanks Date.skipBlanks_dash, scanTimeMark, true_or, if_true,
    Option.bind_eq_bind, Option.bind_some, time, start, scan, Date.ofCivil?_civil]
  exact shows.ofLocal? legible

/-- A legible instant is read back from its text. -/
theorem ofText?_text {t : Instant} (legible : t.Legible) : ofText? t.text = some t :=
  (Shows.refl t).ofText? legible (Text.noDigit_cons (by decide)) (by decide) (by decide) rfl

theorem legible_of_ofLocal? {date : Date} {time : LocalTime} {offset : Int} {t : Instant}
    (read : ofLocal? date time offset = some t) : t.Legible := by
  unfold ofLocal? at read
  split at read
  · obtain ⟨day, -, put⟩ := Option.map_eq_some_iff.1 read
    split at put
    · obtain rfl := put
      intro
      simp only
      omega
    · obtain rfl := put
      intro inside
      simp only [second] at inside
      omega
  · cases read

/-- **The instants that are read are the legible ones.** -/
theorem exists_ofText?_eq_some_iff {t : Instant} : (∃ text, ofText? text = some t) ↔ t.Legible := by
  constructor
  · rintro ⟨text, read⟩
    simp only [ofText?, Option.bind_eq_bind, Option.bind_eq_some_iff] at read
    obtain ⟨_, -, _, -, _, -, _, -, _, -, put⟩ := read
    split at put
    · exact legible_of_ofLocal? put
    · cases put
  · intro legible
    exact ⟨t.text, ofText?_text legible⟩

end Instant
end RelyingParty.Calendar
