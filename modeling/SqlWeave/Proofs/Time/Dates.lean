import SqlWeave.Proofs.Time.Calendar
import SqlWeave.Time.Timestamp

/-!
# Dates of given days

The date of a day number is a day of the calendar, and its day number is the given one
(`dayNumber_ofDayNumber`). An era of 400 years is taken apart into centuries, cycles of four years,
years and days; the formula for the year is checked on these parts.
-/
namespace SqlWeave.Time

/-! ### Years of an era -/

/-- The day is the leap day at the end of a year that starts in March. -/
def IsLeapDay (cycle century year day : Int) : Prop :=
  day = 365 ∧ year = 3 ∧ (cycle < 24 ∨ century = 3)

/-- The last day of an era belongs to the last year of its last cycle and century, which would
otherwise be over. -/
theorem exists_era_parts {d : Int} (first : 0 ≤ d) (last : d < 146097) :
    ∃ century cycle year day : Int, (0 ≤ century ∧ century ≤ 3) ∧ (0 ≤ cycle ∧ cycle ≤ 24) ∧
      (0 ≤ year ∧ year ≤ 3) ∧ 0 ≤ day ∧ (day ≤ 364 ∨ IsLeapDay cycle century year day) ∧
      d = 36524 * century + 1461 * cycle + 365 * year + day := by
  obtain ⟨century, isCentury⟩ : ∃ century, century = min (d / 36524) 3 := ⟨_, rfl⟩
  obtain ⟨cycle, isCycle⟩ : ∃ cycle, cycle = (d - 36524 * century) / 1461 := ⟨_, rfl⟩
  obtain ⟨year, isYear⟩ :
      ∃ year, year = min ((d - 36524 * century - 1461 * cycle) / 365) 3 := ⟨_, rfl⟩
  refine ⟨century, cycle, year, d - 36524 * century - 1461 * cycle - 365 * year, ?_⟩
  unfold IsLeapDay
  omega

theorem year_of_parts {century cycle year day d : Int} (centuries : 0 ≤ century ∧ century ≤ 3)
    (cycles : 0 ≤ cycle ∧ cycle ≤ 24) (years : 0 ≤ year ∧ year ≤ 3) (first : 0 ≤ day)
    (last : day ≤ 364 ∨ IsLeapDay cycle century year day)
    (parts : d = 36524 * century + 1461 * cycle + 365 * year + day) :
    (d - d / 1460 + d / 36524 - d / 146096) / 365 = 100 * century + 4 * cycle + year := by
  unfold IsLeapDay at last
  -- Only on the last day of the era do the last two quotients pass the century, both of them.
  have passed : d / 36524 - d / 146096 = century := by
    by_cases lastDay : d = 146096
    · rw [lastDay]
      omega
    · have within : 1461 * cycle + 365 * year + day < 36524 := by omega
      have century : d / 36524 = century := by omega
      omega
  obtain ⟨extra, quotient, here⟩ : ∃ extra, d / 1460 = 25 * century + cycle + extra ∧
      (extra = 0 ∧ 24 * century + cycle + 365 * year + day < 1460 ∨
        extra = 1 ∧ 1460 ≤ 24 * century + cycle + 365 * year + day) :=
    ⟨d / 1460 - (25 * century + cycle), by omega, by omega⟩
  have total : d - d / 1460 + d / 36524 - d / 146096 =
      365 * (100 * century + 4 * cycle + year) + (day - extra) := by
    omega
  have within : 0 ≤ day - extra ∧ day - extra < 365 := by omega
  rw [total]
  omega

/-- A year of an era and a day of that year. -/
structure EraDay (d year day : Int) : Prop where
  year_nonneg : 0 ≤ year
  year_lt : year < 400
  first : 0 ≤ day
  last : day ≤ 364 ∨ day = 365 ∧ isLeapYear (year + 1) = true
  days_eq : d = 365 * year + year / 4 - year / 100 + day

theorem exists_eraDay {d : Int} (first : 0 ≤ d) (last : d < 146097) :
    ∃ year day, EraDay d year day ∧
      (d - d / 1460 + d / 36524 - d / 146096) / 365 = year := by
  obtain ⟨century, cycle, year, day, centuries, cycles, years, first, last, parts⟩ :=
    exists_era_parts first last
  have formula := year_of_parts centuries cycles years first last parts
  generalize isYear : 100 * century + 4 * cycle + year = yearOfEra at formula
  have fours : yearOfEra / 4 = 25 * century + cycle := by omega
  have hundreds : yearOfEra / 100 = century := by omega
  refine ⟨yearOfEra, day, ⟨by omega, by omega, first, last.imp_right ?_, ?_⟩, formula⟩
  · rintro ⟨isLast, lastYear, cycleEnds⟩
    rw [isLeapYear_iff]
    omega
  · rw [fours, hundreds]
    omega

/-! ### Dates -/

/-- A day of a year that starts in March, counted from zero. -/
structure MarchDay (number year day : Int) : Prop where
  first : 0 ≤ day
  last : day ≤ 364 ∨ day = 365 ∧ isLeapYear (year + 1) = true
  number_eq : number + 719468 = 365 * year + leapYears year + day

/-- The date of a day of a year that starts in March. -/
def ofMarch (year day : Int) : Date :=
  let monthFromMarch := (5 * day + 2) / 153
  let month := if monthFromMarch < 10 then monthFromMarch + 3 else monthFromMarch - 9
  ⟨if month ≤ 2 then year + 1 else year, month.toNat,
    (day - (153 * monthFromMarch + 2) / 5 + 1).toNat⟩

theorem isLeapYear_era (year era : Int) :
    isLeapYear (year + era * 400) = true ↔ isLeapYear year = true := by
  rw [isLeapYear_iff, isLeapYear_iff]
  omega

theorem exists_ofMarch_eq (number : Int) :
    ∃ year day, MarchDay number year day ∧ Date.ofDayNumber number = ofMarch year day := by
  -- Days are counted from the first of March of the year 0 and cut into eras of 400 years.
  generalize shifted : number + 719468 = days
  obtain ⟨year, day, eraDay, formula⟩ :=
    exists_eraDay (Int.emod_nonneg days (by decide)) (Int.emod_lt_of_pos days (by decide))
  have dayOfYear : days % 146097 - (365 * year + year / 4 - year / 100) = day := by
    have days_eq := eraDay.days_eq
    omega
  refine ⟨year + days / 146097 * 400, day, ⟨eraDay.first, ?_, ?_⟩, ?_⟩
  · rw [Int.add_right_comm, isLeapYear_era]
    exact eraDay.last
  · have era : (year + days / 146097 * 400) / 400 = days / 146097 ∧
        (year + days / 146097 * 400) % 400 = year := by
      have least := eraDay.year_nonneg
      have most := eraDay.year_lt
      constructor <;> omega
    have whole := Int.mul_ediv_add_emod days 146097
    rw [← daysOfEras_eq, era.1, era.2, shifted]
    clear era formula
    omega
  · simp only [Date.ofDayNumber, shifted, formula, dayOfYear, ofMarch]

/-- A month, counted from March. January and February belong to the next year of the calendar. -/
theorem exists_month {day : Int} (first : 0 ≤ day) (last : day ≤ 365) (year : Int) :
    ∃ month, 0 ≤ month ∧ month ≤ 11 ∧ month = (5 * day + 2) / 153 ∧ ofMarch year day =
      if month < 10 then ⟨year, (month + 3).toNat, (day - (153 * month + 2) / 5 + 1).toNat⟩
      else ⟨year + 1, (month - 9).toNat, (day - (153 * month + 2) / 5 + 1).toNat⟩ := by
  refine ⟨_, by omega, by omega, rfl, ?_⟩
  unfold ofMarch
  by_cases early : (5 * day + 2) / 153 < 10
  · have month : ¬ (5 * day + 2) / 153 + 3 ≤ 2 := by omega
    simp [early, month]
  · have month : (5 * day + 2) / 153 - 9 ≤ 2 := by omega
    simp [early, month]

theorem MarchDay.isValid {number year day : Int} (date : MarchDay number year day) :
    (ofMarch year day).isValid = true := by
  obtain ⟨first, last, -⟩ := date
  obtain ⟨month, low, high, isMonth, same⟩ := exists_month first (by omega) year
  rw [Date.isValid_iff, same]
  -- Only the length of February depends on the year.
  cases leap : isLeapYear (year + 1) <;> rw [leap] at last <;> interval_cases month <;>
    simp [daysInMonth, leap] at last ⊢ <;> omega

theorem MarchDay.dayNumber {number year day : Int} (date : MarchDay number year day) :
    (ofMarch year day).dayNumber = number := by
  obtain ⟨first, last, number_eq⟩ := date
  obtain ⟨month, low, high, isMonth, same⟩ := exists_month first (by omega) year
  rw [dayNumber_eq_leapYears, same]
  interval_cases month <;> simp <;> omega

theorem leapYears_mono {early late : Int} (before : early ≤ late) :
    leapYears early ≤ leapYears late := by
  induction late, before using Int.leInduction with
  | base => exact Int.le_refl _
  | succ year _ ih =>
    have next := leapYears_eq (year + 1)
    rw [Int.add_sub_cancel] at next
    split at next <;> omega

/-- The years of the dates that timestamps have. -/
theorem MarchDay.year_bounds {number year day : Int} (date : MarchDay number year day)
    (first : firstSecond / 86400 ≤ number) (last : number ≤ lastSecond / 86400) :
    -262143 ≤ (ofMarch year day).year ∧ (ofMarch year day).year ≤ 262142 := by
  obtain ⟨dayFirst, dayLast, number_eq⟩ := date
  obtain ⟨month, low, high, isMonth, same⟩ := exists_month dayFirst (by omega) year
  simp only [firstSecond, lastSecond] at first last
  have sameYear : (ofMarch year day).year = if month < 10 then year else year + 1 := by
    rw [same]
    split <;> rfl
  have least : leapYears (-262144) = -63570 := rfl
  have greatest : leapYears 262142 = 63569 := rfl
  rw [sameYear]
  constructor
  · by_contra before
    have passed := leapYears_mono (show year ≤ -262144 by split at before <;> omega)
    split at before <;> omega
  · by_contra behind
    have passed := leapYears_mono (show 262142 ≤ year by split at behind <;> omega)
    split at behind <;> omega

/-! ### Day numbers -/

theorem isValid_ofDayNumber (number : Int) : (Date.ofDayNumber number).isValid = true := by
  obtain ⟨year, day, date, same⟩ := exists_ofMarch_eq number
  rw [same]
  exact date.isValid

/-- The date of a day number has that number. -/
theorem dayNumber_ofDayNumber (number : Int) : (Date.ofDayNumber number).dayNumber = number := by
  obtain ⟨year, day, date, same⟩ := exists_ofMarch_eq number
  rw [same]
  exact date.dayNumber

theorem year_ofDayNumber {number : Int} (first : firstSecond / 86400 ≤ number)
    (last : number ≤ lastSecond / 86400) :
    -262143 ≤ (Date.ofDayNumber number).year ∧ (Date.ofDayNumber number).year ≤ 262142 := by
  obtain ⟨year, day, date, same⟩ := exists_ofMarch_eq number
  rw [same]
  exact date.year_bounds first last

end SqlWeave.Time
