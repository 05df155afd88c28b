import RelyingParty.Calendar.DateText
import RelyingParty.Proofs.Calendar.Date
import RelyingParty.Proofs.Text.Digits

/-!
# Dates read back from their text

Numbers and years are read as they are spelled, up to what ends them. So the year, month and day of a date
are read back from its characters, whatever follows them, and the date from its text.
-/

namespace RelyingParty.Calendar
set_option autoImplicit false
open Text

/-- A year is spelled with up to four digits, or with a sign and any number of them. -/
inductive YearSpelling : List Char → Int → Prop where
  | short {ds : List Char} {n : Nat} (number : readDigits? ds = some n) (length : ds.length ≤ 4) :
    YearSpelling ds n
  | positive {ds : List Char} {n : Nat} (number : readDigits? ds = some n) : YearSpelling ('+' :: ds) n
  | negative {ds : List Char} {n : Nat} (number : readDigits? ds = some n) : YearSpelling ('-' :: ds) (-n)

/-! ## Numbers and years -/

section
variable {cs rest blanks : List Char}

theorem noDigit_dash (cs : List Char) : NoDigit ('-' :: cs) := noDigit_cons (by decide)

/-- The run of digits behind the blanks is read up to the limit. -/
theorem scanNumber_eq_some_iff {limit n : Nat} :
    scanNumber limit cs = some (n, rest) ↔
      ∃ blanks ds, cs = blanks ++ ds ++ rest ∧ (∀ x ∈ blanks, isBlank x = true) ∧ readDigits? ds = some n ∧
        ds.length ≤ limit ∧ (ds.length = limit ∨ NoDigit rest) := by
  constructor
  · intro read
    obtain ⟨blanks, front, blank⟩ := exists_blanks cs
    obtain ⟨ds, after, taken⟩ : ∃ ds after, takeDigits limit (skipBlanks cs) = (ds, after) := ⟨_, _, rfl⟩
    simp only [scanNumber, taken] at read
    split at read
    · cases read
    · next nonempty =>
      obtain ⟨rfl, rfl⟩ := Prod.mk.inj (Option.some.inj read)
      obtain ⟨back, digit, short, stop⟩ := takeDigits_eq_iff.1 taken
      rw [back, ← List.append_assoc] at front
      exact ⟨blanks, ds, front, blank, readDigits?_eq_some_iff.2 ⟨nonempty, digit, rfl⟩, short, stop⟩
  · rintro ⟨blanks, ds, rfl, blank, number, short, stop⟩
    obtain ⟨nonempty, digit, rfl⟩ := readDigits?_eq_some_iff.1 number
    have start : ∀ x ∈ (ds ++ rest).head?, isBlank x = false := by
      obtain ⟨d, ds, rfl⟩ := List.exists_cons_of_ne_nil nonempty
      rintro _ ⟨⟩
      exact not_isBlank_of_isDigit (digit d List.mem_cons_self)
    have taken := takeDigits_eq_iff.2 ⟨rfl, digit, short, stop⟩
    simp only [scanNumber, List.append_assoc, skipBlanks_append blank start, taken, if_neg nonempty]

/-- After a sign the whole run of digits is read. -/
theorem scanSigned_eq_some_iff {sign year : Int} :
    scanSigned sign cs = some (year, rest) ↔
      ∃ ds n, cs = ds ++ rest ∧ readDigits? ds = some n ∧ sign * n = year ∧ NoDigit rest := by
  obtain ⟨ds, after, taken⟩ : ∃ ds after, spanDigits cs = (ds, after) := ⟨_, _, rfl⟩
  obtain ⟨rfl, digit, stop⟩ := spanDigits_eq_iff.1 taken
  simp only [scanSigned, taken]
  constructor
  · intro read
    split at read
    · cases read
    · next nonempty =>
      obtain ⟨rfl, rfl⟩ := Prod.mk.inj (Option.some.inj read)
      exact ⟨ds, _, rfl, readDigits?_eq_some_iff.2 ⟨nonempty, digit, rfl⟩, rfl, stop⟩
  · rintro ⟨es, n, same, number, rfl, stop'⟩
    obtain ⟨nonempty, digit', rfl⟩ := readDigits?_eq_some_iff.1 number
    rw [same, spanDigits_append digit' stop'] at taken
    obtain ⟨rfl, rfl⟩ := Prod.mk.inj taken
    rw [if_neg nonempty]

theorem scanNumber_paddedDigits (w n : Nat) (rest : List Char) (h : n < 10 ^ (w + 1)) :
    scanNumber (w + 1) (paddedDigits (w + 1) n ++ rest) = some (n, rest) := by
  have length := length_paddedDigits w n h
  exact scanNumber_eq_some_iff.2
    ⟨[], _, rfl, nofun, readDigits?_paddedDigits _ _, Nat.le_of_eq length, .inl length⟩

/-- A year behind blanks, before something that is no digit, is read as it is spelled. -/
theorem scanYear_append {ys : List Char} {year : Int} (blank : ∀ x ∈ blanks, isBlank x = true)
    (spelling : YearSpelling ys year) (stop : NoDigit rest) :
    scanYear (blanks ++ ys ++ rest) = some (year, rest) := by
  have sign (c : Char) (visible : isBlank c = false) (ds : List Char) :
      skipBlanks (blanks ++ (c :: ds ++ rest)) = c :: (ds ++ rest) := by
    refine skipBlanks_append blank ?_
    rintro _ ⟨⟩
    exact visible
  rw [List.append_assoc]
  cases spelling with
  | @short ds n number length =>
    obtain ⟨nonempty, digit, -⟩ := readDigits?_eq_some_iff.1 number
    have read : scanNumber 4 (ys ++ rest) = some (n, rest) :=
      scanNumber_eq_some_iff.2 ⟨[], ys, rfl, nofun, number, length, .inr stop⟩
    obtain ⟨d, ys, rfl⟩ := List.exists_cons_of_ne_nil nonempty
    have first := digit d List.mem_cons_self
    unfold scanYear
    rw [sign d (not_isBlank_of_isDigit first)]
    rw [List.cons_append] at read
    -- a digit is neither of the two signs
    split
    · next same => cases (List.cons.inj same).1; exact absurd first (by decide)
    · next same => cases (List.cons.inj same).1; exact absurd first (by decide)
    · rw [read]
      rfl
  | @positive ds n number =>
    rw [scanYear, sign '+' (by decide)]
    exact scanSigned_eq_some_iff.2 ⟨ds, n, rfl, number, Int.one_mul _, stop⟩
  | @negative ds n number =>
    rw [scanYear, sign '-' (by decide)]
    exact scanSigned_eq_some_iff.2 ⟨ds, n, rfl, number, Int.neg_one_mul _, stop⟩

end

/-- The characters of a year spell it. -/
theorem yearSpelling_yearChars (year : Int) : YearSpelling (yearChars year) year := by
  unfold yearChars
  split
  · next short =>
    have length := length_paddedDigits 3 year.toNat (by omega)
    have spelling := YearSpelling.short (readDigits?_paddedDigits 4 year.toNat) (Nat.le_of_eq length)
    rwa [Int.toNat_of_nonneg short.1] at spelling
  · split
    · next negative =>
      have spelling := YearSpelling.negative (readDigits?_paddedDigits 4 year.natAbs)
      rwa [show -(year.natAbs : Int) = year by omega] at spelling
    · next positive =>
      have spelling := YearSpelling.positive (readDigits?_paddedDigits 4 year.natAbs)
      rwa [show (year.natAbs : Int) = year by omega] at spelling

theorem scanYear_yearChars (year : Int) (rest : List Char) :
    scanYear (yearChars year ++ '-' :: rest) = some (year, '-' :: rest) := by
  have nothing : ∀ x ∈ ([] : List Char), isBlank x = true := nofun
  exact scanYear_append nothing (yearSpelling_yearChars year) (noDigit_dash rest)

/-! ## Whole dates -/

/-- A civil date of two-digit months and days is read back, when nothing is skipped at its dashes. -/
theorem scanCivil_chars (skip : List Char → List Char) (dash : ∀ cs, skip ('-' :: cs) = '-' :: cs)
    (c : Civil) (month : c.month < 10 ^ 2) (day : c.day < 10 ^ 2) (rest : List Char) :
    scanCivil skip (c.chars ++ rest) = some (c, rest) := by
  simp only [scanCivil, Civil.chars, List.append_assoc, List.cons_append, scanYear_yearChars, dash,
    scanChar, if_true, Option.bind_eq_bind, Option.bind_some, scanNumber_paddedDigits 1 _ _ month,
    scanNumber_paddedDigits 1 _ _ day]
  rfl

theorem daysInMonth_le (year : Int) (month : Nat) : daysInMonth year month ≤ 31 := by
  unfold daysInMonth
  split
  · split <;> decide
  all_goals decide

namespace Date

theorem scanCivil_chars (skip : List Char → List Char) (dash : ∀ cs, skip ('-' :: cs) = '-' :: cs)
    (d : Date) (rest : List Char) : scanCivil skip (d.chars ++ rest) = some (d.civil, rest) := by
  obtain ⟨_, month, _, day⟩ : d.civil.Exists := exists_civilOfDay d.day
  have short := daysInMonth_le d.civil.year d.civil.month
  exact Calendar.scanCivil_chars skip dash d.civil (by omega) (by omega) rest

theorem skipBlanks_dash (cs : List Char) : skipBlanks ('-' :: cs) = '-' :: cs := by
  simp [skipBlanks, show isBlank '-' = false by decide]

/-- A date is read back from its text. -/
theorem ofText?_text (d : Date) : ofText? d.text = some d := by
  have civil := scanCivil_chars skipBlanks skipBlanks_dash d []
  rw [List.append_nil] at civil
  simp only [ofText?, text, String.toList_ofList, civil, Option.bind_eq_bind, Option.bind_some]
  exact d.ofCivil?_civil

end Date
end RelyingParty.Calendar
