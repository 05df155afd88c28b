import RelyingParty.Calendar.Date

/-!
# Day numbers and civil dates

The civil date of a day number exists and has that number, and is the only one, so that a date is read
back from its year, month and day and from no others. Years start in March here: the leap day is then the
last of its year, and the days of the months before a month do not depend on the year.
-/

namespace RelyingParty.Calendar
set_option autoImplicit false

/-- A day of an era by its century, four-year cycle, year of the cycle and day of the year. -/
structure InEra (dayOfEra century cycle year day : Int) : Prop where
  century_nonneg : 0 ≤ century
  century_le : century ≤ 3
  cycle_nonneg : 0 ≤ cycle
  cycle_le : cycle ≤ 24
  year_nonneg : 0 ≤ year
  year_le : year ≤ 3
  day_nonneg : 0 ≤ day
  day_le : day ≤ 365
  sum : dayOfEra = 36524 * century + 1461 * cycle + 365 * year + day
  /-- Only the last year of a cycle has day 365, and of the last cycles only that of the last
  century. -/
  leapDay : day = 365 → year = 3 ∧ (cycle = 24 → century = 3)

/-- The division by centuries, cycles and years puts every day of an era in its place. -/
theorem inEra_of_lt (dayOfEra : Int) (low : 0 ≤ dayOfEra) (high : dayOfEra < eraDays) :
    let century := min (dayOfEra / 36524) 3
    let dayOfCentury := dayOfEra - 36524 * century
    let cycle := dayOfCentury / 1461
    let dayOfCycle := dayOfCentury % 1461
    let yearOfCycle := min (dayOfCycle / 365) 3
    InEra dayOfEra century cycle yearOfCycle (dayOfCycle - 365 * yearOfCycle) := by
  intro century dayOfCentury cycle dayOfCycle yearOfCycle
  rw [eraDays] at high
  constructor <;> omega

/-- The civil date of a year from March, the months passed since then, and a day of the month. -/
def civilOfMarch (year monthsPassed dayOfMonth : Int) : Civil :=
  let month := if monthsPassed < 10 then monthsPassed + 3 else monthsPassed - 9
  ⟨if month ≤ 2 then year + 1 else year, month.toNat, dayOfMonth.toNat⟩

/-- The days of a month by the months passed since March. -/
def marchMonthDays (year : Int) : (monthsPassed : Int) → Int
  | 1 | 3 | 6 | 8 => 30
  | 11 => if isLeapYear (year + 1) then 29 else 28
  | _ => 31

theorem civilOfMarch_of_lt {year m d : Int} (early : m < 10) (low : 0 ≤ m) :
    civilOfMarch year m d = ⟨year, (m + 3).toNat, d.toNat⟩ := by
  simp only [civilOfMarch, if_pos early]
  rw [if_neg (by omega)]

theorem civilOfMarch_of_ge {year m d : Int} (late : ¬ m < 10) (high : m ≤ 11) :
    civilOfMarch year m d = ⟨year + 1, (m - 9).toNat, d.toNat⟩ := by
  simp only [civilOfMarch, if_neg late]
  rw [if_pos (by omega)]

theorem dayNumber_civilOfMarch (year m d : Int) (low : 0 ≤ m) (high : m ≤ 11) (first : 1 ≤ d) :
    (civilOfMarch year m d).dayNumber =
      eraStart + year / 400 * eraDays + (year % 400 * 365 + year % 400 / 4 - year % 400 / 100)
        + daysBeforeMonth m + (d - 1) := by
  by_cases early : m < 10
  · have passed : ((m + 3).toNat : Int) - 3 = m := by omega
    rw [civilOfMarch_of_lt early low, Civil.dayNumber]
    simp only []
    rw [if_neg (by omega), if_neg (by omega), passed]
    omega
  · have passed : ((m - 9).toNat : Int) + 9 = m := by omega
    rw [civilOfMarch_of_ge early high, Civil.dayNumber]
    simp only []
    rw [if_pos (by omega), if_pos (by omega), passed, Int.add_sub_cancel]
    omega

/-- The months passed since March are one of twelve. -/
theorem months_cases {m : Int} (low : 0 ≤ m) (high : m ≤ 11) :
    m = 0 ∨ m = 1 ∨ m = 2 ∨ m = 3 ∨ m = 4 ∨ m = 5 ∨ m = 6 ∨ m = 7 ∨ m = 8 ∨ m = 9 ∨ m = 10 ∨ m = 11 := by
  omega

theorem exists_civilOfMarch (year m d : Int) (low : 0 ≤ m) (high : m ≤ 11) (first : 1 ≤ d)
    (last : d ≤ marchMonthDays year m) : (civilOfMarch year m d).Exists := by
  obtain rfl | rfl | rfl | rfl | rfl | rfl | rfl | rfl | rfl | rfl | rfl | rfl := months_cases low high
  -- only February asks whether the year has a leap day, and then both answers are the same
  all_goals cases leap : isLeapYear (year + 1)
  all_goals simp [marchMonthDays, leap] at last
  all_goals simp [civilOfMarch, Civil.Exists, daysInMonth, leap]
  all_goals omega

/-- The years of the whole cycles and centuries of an era leave the year of the era. -/
theorem year_of_parts (era : Int) {c k y : Int} (hc : 0 ≤ c ∧ c ≤ 3) (hk : 0 ≤ k ∧ k ≤ 24)
    (hy : 0 ≤ y ∧ y ≤ 3) :
    (400 * era + 100 * c + 4 * k + y) / 400 = era ∧
      (400 * era + 100 * c + 4 * k + y) % 400 = 100 * c + 4 * k + y ∧
      (100 * c + 4 * k + y) / 4 = 25 * c + k ∧ (100 * c + 4 * k + y) / 100 = c := by
  refine ⟨?_, ?_, ?_, ?_⟩ <;> omega

/-- Every day of a year falls into a month of that year. -/
theorem dayOfMonth_of_inEra {dayOfEra century cycle year day : Int} (era : Int)
    (h : InEra dayOfEra century cycle year day) :
    let m := (5 * day + 2) / 153
    (0 ≤ m ∧ m ≤ 11) ∧ 1 ≤ day - daysBeforeMonth m + 1 ∧
      day - daysBeforeMonth m + 1 ≤
        marchMonthDays (400 * era + 100 * century + 4 * cycle + year) m := by
  intro m
  obtain ⟨_, _, _, _, _, _, low, high, -, leapDay⟩ := h
  have months : 0 ≤ m ∧ m ≤ 11 := by omega
  have start : daysBeforeMonth m ≤ day := by simp only [daysBeforeMonth]; omega
  refine ⟨months, by omega, ?_⟩
  have place : m = (5 * day + 2) / 153 := rfl
  have cases := months_cases months.1 months.2
  clear_value m
  obtain rfl | rfl | rfl | rfl | rfl | rfl | rfl | rfl | rfl | rfl | rfl | rfl := cases
  all_goals simp only [marchMonthDays, daysBeforeMonth]
  all_goals try omega
  by_cases leap : day = 365
  · obtain ⟨rfl, lastCycle⟩ := leapDay leap
    have isLeap : isLeapYear (400 * era + 100 * century + 4 * cycle + 3 + 1) = true := by
      simp only [isLeapYear, Bool.and_eq_true, Bool.or_eq_true, beq_iff_eq, bne_iff_ne, ne_eq]
      omega
    rw [if_pos isLeap]
    omega
  · split <;> omega

/-- The civil date of a day number exists. -/
theorem exists_civilOfDay (day : Int) : (civilOfDay day).Exists := by
  have place := inEra_of_lt ((day - eraStart) % eraDays) (Int.emod_nonneg _ (by decide))
    (Int.emod_lt_of_pos _ (by decide))
  obtain ⟨⟨low, high⟩, first, last⟩ := dayOfMonth_of_inEra ((day - eraStart) / eraDays) place
  exact exists_civilOfMarch _ _ _ low high first last

/-- The civil date of a day number has that number. -/
theorem dayNumber_civilOfDay (day : Int) : (civilOfDay day).dayNumber = day := by
  have place := inEra_of_lt ((day - eraStart) % eraDays) (Int.emod_nonneg _ (by decide))
    (Int.emod_lt_of_pos _ (by decide))
  obtain ⟨⟨low, high⟩, first, -⟩ := dayOfMonth_of_inEra ((day - eraStart) / eraDays) place
  obtain ⟨hc, hc', hk, hk', hy, hy', _, _, sum, -⟩ := place
  obtain ⟨whole, rest, fours, hundreds⟩ :=
    year_of_parts ((day - eraStart) / eraDays) ⟨hc, hc'⟩ ⟨hk, hk'⟩ ⟨hy, hy'⟩
  refine (dayNumber_civilOfMarch _ _ _ low high first).trans ?_
  rw [whole, rest, fours, hundreds]
  have split := Int.emod_add_mul_ediv (day - eraStart) eraDays
  rw [eraDays] at *
  omega

/-! ## A civil date is that of its day number -/

/-- The days before the first of March of a year, counted from that of the year zero. -/
def yearStart (year : Int) : Int := 365 * year + year / 4 - year / 100 + year / 400

theorem dayNumber_eq_yearStart (year m d : Int) (low : 0 ≤ m) (high : m ≤ 11) (first : 1 ≤ d) :
    (civilOfMarch year m d).dayNumber = eraStart + yearStart year + (daysBeforeMonth m + (d - 1)) := by
  rw [dayNumber_civilOfMarch year m d low high first, yearStart, eraDays]
  omega

theorem daysInMonth_civilOfMarch (year m d : Int) (low : 0 ≤ m) (high : m ≤ 11) :
    (daysInMonth (civilOfMarch year m d).year (civilOfMarch year m d).month : Int) =
      marchMonthDays year m := by
  obtain rfl | rfl | rfl | rfl | rfl | rfl | rfl | rfl | rfl | rfl | rfl | rfl := months_cases low high
  all_goals try rfl
  cases leap : isLeapYear (year + 1) <;> simp [civilOfMarch, daysInMonth, marchMonthDays, leap]

/-- Every existing date falls into a month of a year from March. -/
theorem Civil.Exists.ofMarch {c : Civil} (present : c.Exists) :
    ∃ year m d, c = civilOfMarch year m d ∧ (0 ≤ m ∧ m ≤ 11) ∧ 1 ≤ d ∧ d ≤ marchMonthDays year m := by
  obtain ⟨january, december, first, last⟩ := present
  have place : ∃ year m, c = civilOfMarch year m c.day ∧ 0 ≤ m ∧ m ≤ 11 := by
    by_cases early : c.month ≤ 2
    · refine ⟨c.year - 1, c.month + 9, ?_, by omega, by omega⟩
      rw [civilOfMarch_of_ge (by omega) (by omega)]
      simp
    · refine ⟨c.year, c.month - 3, ?_, by omega, by omega⟩
      rw [civilOfMarch_of_lt (by omega) (by omega)]
      simp
  obtain ⟨year, m, same, low, high⟩ := place
  have days := daysInMonth_civilOfMarch year m c.day low high
  rw [← same] at days
  exact ⟨year, m, c.day, same, ⟨low, high⟩, by omega, by omega⟩

/-- The month is found from the day of the year. -/
theorem month_of_day {year m d : Int} (months : 0 ≤ m ∧ m ≤ 11) (first : 1 ≤ d)
    (last : d ≤ marchMonthDays year m) : (5 * (daysBeforeMonth m + (d - 1)) + 2) / 153 = m := by
  obtain rfl | rfl | rfl | rfl | rfl | rfl | rfl | rfl | rfl | rfl | rfl | rfl :=
    months_cases months.1 months.2
  all_goals simp only [marchMonthDays, daysBeforeMonth] at last ⊢
  all_goals omega

/-- A leap day is counted before the next year. -/
theorem yearStart_succ_of_leap {year : Int} (leap : isLeapYear (year + 1) = true) :
    yearStart (year + 1) = yearStart year + 366 := by
  simp only [isLeapYear, Bool.and_eq_true, Bool.or_eq_true, beq_iff_eq, bne_iff_ne] at leap
  unfold yearStart
  omega

theorem le_yearStart_succ (year : Int) : yearStart year + 365 ≤ yearStart (year + 1) := by
  unfold yearStart
  omega

theorem yearStart_le {year year' : Int} (le : year ≤ year') : yearStart year ≤ yearStart year' := by
  unfold yearStart
  omega

/-- The days of a year come before the next year. -/
theorem day_lt_yearStart_succ {year m d : Int} (months : 0 ≤ m ∧ m ≤ 11)
    (last : d ≤ marchMonthDays year m) :
    yearStart year + (daysBeforeMonth m + (d - 1)) < yearStart (year + 1) := by
  have common := le_yearStart_succ year
  obtain rfl | rfl | rfl | rfl | rfl | rfl | rfl | rfl | rfl | rfl | rfl | rfl :=
    months_cases months.1 months.2
  all_goals simp only [marchMonthDays, daysBeforeMonth] at last ⊢
  all_goals try omega
  cases leap : isLeapYear (year + 1) with
  | true =>
    have long := yearStart_succ_of_leap leap
    rw [if_pos leap] at last
    omega
  | false =>
    rw [leap, if_neg (by decide)] at last
    omega

/-- Existing civil dates with the same number are the same. -/
theorem Civil.Exists.eq_of_dayNumber {c c' : Civil} (present : c.Exists) (present' : c'.Exists)
    (same : c.dayNumber = c'.dayNumber) : c = c' := by
  obtain ⟨year, m, d, rfl, months, first, last⟩ := present.ofMarch
  obtain ⟨year', m', d', rfl, months', first', last'⟩ := present'.ofMarch
  rw [dayNumber_eq_yearStart year m d months.1 months.2 first,
    dayNumber_eq_yearStart year' m' d' months'.1 months'.2 first'] at same
  have start : 0 ≤ daysBeforeMonth m := by unfold daysBeforeMonth; omega
  have start' : 0 ≤ daysBeforeMonth m' := by unfold daysBeforeMonth; omega
  have stop := day_lt_yearStart_succ months last
  have stop' := day_lt_yearStart_succ months' last'
  -- each day lies before the year after its own, so that neither year is later than the other
  obtain rfl : year = year' := by
    have early : year < year' + 1 := Int.not_le.1 fun later => absurd (yearStart_le later) (by omega)
    have late : year' < year + 1 := Int.not_le.1 fun later => absurd (yearStart_le later) (by omega)
    omega
  have day : daysBeforeMonth m + (d - 1) = daysBeforeMonth m' + (d' - 1) := by omega
  have month := month_of_day months first last
  rw [day, month_of_day months' first' last'] at month
  obtain rfl := month
  obtain rfl : d = d' := by omega
  rfl

/-- A civil date between the first supported day and the last. -/
def Civil.Supported (c : Civil) : Prop := firstDay ≤ c.dayNumber ∧ c.dayNumber ≤ lastDay

namespace Date

/-- The dates are the existing civil dates that are supported. -/
theorem exists_civil_eq_iff {c : Civil} : (∃ d : Date, d.civil = c) ↔ c.Exists ∧ c.Supported := by
  constructor
  · rintro ⟨d, rfl⟩
    have number : d.civil.dayNumber = d.day := dayNumber_civilOfDay d.day
    refine ⟨exists_civilOfDay d.day, ?_⟩
    rw [Civil.Supported, number]
    exact ⟨d.first_le, d.le_last⟩
  · rintro ⟨present, first, last⟩
    exact ⟨⟨c.dayNumber, first, last⟩,
      (exists_civilOfDay _).eq_of_dayNumber present (dayNumber_civilOfDay c.dayNumber)⟩

/-- A date is read back from its year, month and day. -/
theorem ofCivil?_civil (d : Date) : ofCivil? d.civil = some d := by
  have number : d.civil.dayNumber = d.day := dayNumber_civilOfDay d.day
  have present : d.civil.Exists := exists_civilOfDay d.day
  rw [ofCivil?, if_pos present, number, ofDay?, dif_pos ⟨d.first_le, d.le_last⟩]

/-- A year, month and day are those of the date that they give. -/
theorem ofCivil?_eq_some_iff {c : Civil} {d : Date} : ofCivil? c = some d ↔ d.civil = c := by
  constructor
  · intro found
    unfold ofCivil? ofDay? at found
    split at found
    · next present =>
      split at found
      · obtain rfl := Option.some.inj found
        exact (exists_civilOfDay _).eq_of_dayNumber present (dayNumber_civilOfDay _)
      · cases found
    · cases found
  · rintro rfl
    exact ofCivil?_civil d

end Date
end RelyingParty.Calendar
