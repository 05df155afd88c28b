import RelyingParty.Proofs.Calendar.DateText

/-!
# How dates may be spelled

The compact reading of dates takes more texts than those that dates are written as: blanks before each
number, months and days of one digit, short years, and years with a sign. Among the texts of exactly four,
two and two digits it takes only those, and each date has one of them.
-/

namespace RelyingParty.Calendar
set_option autoImplicit false
open Text

/-- A civil date is spelled with a year, and a month and day of one or two digits, after a dash each. Blanks
may stand before each of the three. -/
inductive Spells : List Char → Civil → Prop where
  | parts {blanks ys blanks' ms blanks'' ds : List Char} {c : Civil}
    (blank : ∀ x ∈ blanks ++ blanks' ++ blanks'', isBlank x = true) (year : YearSpelling ys c.year)
    (month : readDigits? ms = some c.month) (shortMonth : ms.length ≤ 2)
    (day : readDigits? ds = some c.day) (shortDay : ds.length ≤ 2) :
    Spells (blanks ++ ys ++ '-' :: (blanks' ++ ms) ++ '-' :: (blanks'' ++ ds)) c

/-- A text of exactly four digits, a dash, two digits, a dash and two digits. -/
def IsoForm (s : String) : Prop :=
  ∃ ys ms ds : List Char, s.toList = ys ++ '-' :: ms ++ '-' :: ds ∧
    ys.length = 4 ∧ ms.length = 2 ∧ ds.length = 2 ∧ ∀ x ∈ ys ++ ms ++ ds, x.isDigit = true

theorem IsoForm.length {s : String} (form : IsoForm s) : s.toList.length = 10 := by
  obtain ⟨ys, ms, ds, split, fourYears, twoMonths, twoDays, -⟩ := form
  rw [split]
  simp only [List.length_append, List.length_cons, fourYears, twoMonths, twoDays]

/-! ## Reading the parts -/

section
variable {cs rest : List Char}

theorem scanChar_eq_some_iff {c : Char} : scanChar c cs = some rest ↔ cs = c :: rest := by
  cases cs <;> simp [scanChar]

theorem exists_of_scanYear {year : Int} (read : scanYear cs = some (year, rest)) :
    ∃ blanks ys, cs = blanks ++ ys ++ rest ∧ (∀ x ∈ blanks, isBlank x = true) ∧ YearSpelling ys year := by
  obtain ⟨blanks, front, blank⟩ := exists_blanks cs
  unfold scanYear at read
  split at read
  · next after same =>
    obtain ⟨ds, n, rfl, number, value, -⟩ := scanSigned_eq_some_iff.1 read
    obtain rfl : -(n : Int) = year := (Int.neg_one_mul _).symm.trans value
    refine ⟨blanks, '-' :: ds, ?_, blank, .negative number⟩
    rw [front, same, List.append_assoc, List.cons_append]
  · next after same =>
    obtain ⟨ds, n, rfl, number, value, -⟩ := scanSigned_eq_some_iff.1 read
    obtain rfl : (n : Int) = year := (Int.one_mul _).symm.trans value
    refine ⟨blanks, '+' :: ds, ?_, blank, .positive number⟩
    rw [front, same, List.append_assoc, List.cons_append]
  · obtain ⟨⟨n, after⟩, number, same⟩ := Option.map_eq_some_iff.1 read
    obtain ⟨rfl, rfl⟩ := Prod.mk.inj same
    obtain ⟨blanks', ds, back, blank', digits, short, -⟩ := scanNumber_eq_some_iff.1 number
    refine ⟨blanks ++ blanks', ds, ?_, List.forall_mem_append.2 ⟨blank, blank'⟩, .short digits short⟩
    rw [front, back, List.append_assoc, List.append_assoc, List.append_assoc]

end

/-! ## Reading whole dates -/

/-- The compact reading takes the spellings of dates and nothing else. -/
theorem scanCivil_eq_some_iff {cs : List Char} {c : Civil} :
    scanCivil id cs = some (c, []) ↔ Spells cs c := by
  constructor
  · intro read
    simp only [scanCivil, Option.bind_eq_bind, Option.bind_eq_some_iff, id] at read
    obtain ⟨⟨year, _⟩, readYear, _, dash, ⟨month, _⟩, readMonth, _, dash', ⟨day, _⟩, readDay, same⟩ := read
    obtain ⟨rfl, rfl⟩ := Prod.mk.inj (Option.some.inj same)
    obtain ⟨blanks, ys, rfl, blank, spelling⟩ := exists_of_scanYear readYear
    obtain rfl := scanChar_eq_some_iff.1 dash
    obtain ⟨blanks', ms, rfl, blank', months, shortMonth, -⟩ := scanNumber_eq_some_iff.1 readMonth
    obtain rfl := scanChar_eq_some_iff.1 dash'
    obtain ⟨blanks'', ds, rfl, blank'', days, shortDay, -⟩ := scanNumber_eq_some_iff.1 readDay
    have spelled : Spells (blanks ++ ys ++ '-' :: (blanks' ++ ms) ++ '-' :: (blanks'' ++ ds))
        ⟨year, month, day⟩ := by
      refine .parts ?_ spelling months shortMonth days shortDay
      simp only [List.forall_mem_append]
      exact ⟨⟨blank, blank'⟩, blank''⟩
    simpa using spelled
  · rintro @⟨blanks, ys, blanks', ms, blanks'', ds, c, blank, spelling, months, shortMonth, days, shortDay⟩
    simp only [List.forall_mem_append] at blank
    obtain ⟨⟨blank, blank'⟩, blank''⟩ := blank
    -- a number ends at the dash or at the end of the text, so the longest run is the whole of it
    have readYear := scanYear_append blank spelling (noDigit_dash (blanks' ++ ms ++ '-' :: (blanks'' ++ ds)))
    have readMonth : scanNumber 2 (blanks' ++ ms ++ '-' :: (blanks'' ++ ds)) = some (c.month, _) :=
      scanNumber_eq_some_iff.2 ⟨blanks', ms, rfl, blank', months, shortMonth, .inr (noDigit_dash _)⟩
    have readDay : scanNumber 2 (blanks'' ++ ds) = some (c.day, []) :=
      scanNumber_eq_some_iff.2 ⟨blanks'', ds, (List.append_nil _).symm, blank'', days, shortDay, .inr noDigit_nil⟩
    rw [List.append_assoc _ ('-' :: _), List.cons_append]
    simp only [scanCivil, Option.bind_eq_bind, readYear, Option.bind_some, id, scanChar, if_true, readMonth,
      readDay]
    rfl

/-- A text spells one civil date at most. -/
theorem Spells.unique {cs : List Char} {c c' : Civil} (spelled : Spells cs c) (spelled' : Spells cs c') :
    c = c' := by
  have read := scanCivil_eq_some_iff.2 spelled
  rw [scanCivil_eq_some_iff.2 spelled'] at read
  exact (Prod.mk.inj (Option.some.inj read)).1.symm

namespace Date

/-- **The compact reading takes exactly the spellings of supported dates.** -/
theorem ofCompactText?_eq_some_iff {s : String} {d : Date} :
    ofCompactText? s = some d ↔ Spells s.toList d.civil := by
  simp only [ofCompactText?, Option.bind_eq_bind, Option.bind_eq_some_iff]
  constructor
  · rintro ⟨⟨c, rest⟩, read, found⟩
    split at found
    · next nothing =>
      obtain rfl : rest = [] := nothing
      rw [ofCivil?_eq_some_iff.1 found]
      exact scanCivil_eq_some_iff.1 read
    · cases found
  · intro spelled
    exact ⟨(d.civil, []), scanCivil_eq_some_iff.2 spelled, d.ofCivil?_civil⟩

/-- A text is read when it spells a date that exists and is supported. -/
theorem exists_ofCompactText?_iff {s : String} :
    (∃ d, ofCompactText? s = some d) ↔ ∃ c, Spells s.toList c ∧ c.Exists ∧ c.Supported := by
  simp only [ofCompactText?_eq_some_iff, ← exists_civil_eq_iff]
  constructor
  · rintro ⟨d, spelled⟩
    exact ⟨d.civil, spelled, d, rfl⟩
  · rintro ⟨_, spelled, d, rfl⟩
    exact ⟨d, spelled⟩

/-- A date between the years 0 and 9999 has a text with four digits for its year. -/
def FourDigitYear (d : Date) : Prop := 0 ≤ d.civil.year ∧ d.civil.year ≤ 9999

/-- The text of a date with a year of four digits has the form. -/
theorem isoForm_text {d : Date} (short : d.FourDigitYear) : IsoForm d.text := by
  obtain ⟨_, month, _, day⟩ : d.civil.Exists := exists_civilOfDay d.day
  have days := daysInMonth_le d.civil.year d.civil.month
  have year : yearChars d.civil.year = paddedDigits 4 d.civil.year.toNat := if_pos short
  refine ⟨paddedDigits 4 d.civil.year.toNat, paddedDigits 2 d.civil.month, paddedDigits 2 d.civil.day, ?_,
    length_paddedDigits 3 _ ?_, length_paddedDigits 1 _ (by omega), length_paddedDigits 1 _ (by omega), ?_⟩
  · rw [text, String.toList_ofList, chars, Civil.chars, year]
  · have := short.2
    omega
  · simp only [List.forall_mem_append]
    exact ⟨⟨isDigit_of_mem_paddedDigits _ _, isDigit_of_mem_paddedDigits _ _⟩,
      isDigit_of_mem_paddedDigits _ _⟩

/-- Among the spellings of a date its text alone has the form. -/
theorem isoForm_iff_of_spells {s : String} {d : Date} (spelled : Spells s.toList d.civil) :
    IsoForm s ↔ s = d.text ∧ d.FourDigitYear := by
  constructor
  · rintro ⟨ys, ms, ds, split, fourYears, twoMonths, twoDays, digit⟩
    simp only [List.forall_mem_append] at digit
    obtain ⟨⟨yearDigits, monthDigits⟩, dayDigits⟩ := digit
    have number {w : Nat} {run : List Char} (length : run.length = w + 1)
        (digit : ∀ x ∈ run, x.isDigit = true) : readDigits? run = some (ofDigits run) :=
      readDigits?_eq_some_iff.2 ⟨List.ne_nil_of_length_eq_add_one length, digit, rfl⟩
    have plain : Spells s.toList ⟨ofDigits ys, ofDigits ms, ofDigits ds⟩ := by
      have spelling := YearSpelling.short (number fourYears yearDigits) (Nat.le_of_eq fourYears)
      have blank : ∀ x ∈ ([] ++ [] ++ [] : List Char), isBlank x = true := nofun
      rw [split]
      exact .parts blank spelling (number twoMonths monthDigits) (Nat.le_of_eq twoMonths)
        (number twoDays dayDigits) (Nat.le_of_eq twoDays)
    have civil := spelled.unique plain
    have bound := ofDigits_lt yearDigits
    rw [fourYears] at bound
    have short : 0 ≤ (ofDigits ys : Int) ∧ (ofDigits ys : Int) ≤ 9999 := by omega
    have chars : d.chars = s.toList := by
      rw [Date.chars, civil, Civil.chars, yearChars, if_pos short, Int.toNat_natCast,
        paddedDigits_ofDigits fourYears yearDigits, paddedDigits_ofDigits twoMonths monthDigits,
        paddedDigits_ofDigits twoDays dayDigits, split]
    rw [text, chars, String.ofList_toList, FourDigitYear, civil]
    exact ⟨rfl, short⟩
  · rintro ⟨rfl, short⟩
    exact isoForm_text short

end Date
end RelyingParty.Calendar
