import Mathlib.Tactic.IntervalCases
import SqlWeave.Time.Calendar

/-!
# Counting days

The day number of a date is the number of days from 1970-01-01 to it, counted year by year and month
by month (`dayNumber_eq`). Both come down to the number of leap years that have passed.
-/
namespace SqlWeave.Time

/-- The days from the beginning of the year 0 to that of the given year. -/
def daysBeforeYear : Nat → Nat
  | 0 => 0
  | year + 1 => daysBeforeYear year + if isLeapYear year then 366 else 365

/-- The days from the beginning of a year to that of a month. -/
def daysBeforeMonth (year : Int) : Nat → Nat
  | 0 => 0
  | month + 1 => daysBeforeMonth year month + daysInMonth year month

/-- The days from 1970-01-01 to a day of a year from 0 on. -/
def daysSinceEpoch (year month day : Nat) : Int :=
  daysBeforeYear year + daysBeforeMonth year month + (day - 1) - daysBeforeYear 1970

/-! ### Leap years -/

/-- The number of leap years from the year 1 to the given one. -/
def leapYears (year : Int) : Int := year / 4 - year / 100 + year / 400

theorem isLeapYear_iff {year : Int} :
    isLeapYear year = true ↔ year % 4 = 0 ∧ (year % 100 ≠ 0 ∨ year % 400 = 0) := by
  simp [isLeapYear]

theorem leapYears_eq (year : Int) :
    leapYears year = leapYears (year - 1) + if isLeapYear year then 1 else 0 := by
  unfold leapYears
  split
  next leap =>
    rw [isLeapYear_iff] at leap
    omega
  next common =>
    rw [isLeapYear_iff] at common
    omega

theorem daysBeforeYear_eq (year : Nat) :
    (daysBeforeYear year : Int) = 365 * year + leapYears (year - 1) + 1 := by
  induction year with
  | zero => rfl
  | succ year ih =>
    -- The year that ends is the one that may have a leap day.
    have passed := leapYears_eq year
    rw [daysBeforeYear]
    push_cast
    rw [Int.add_sub_cancel, ih, passed]
    split <;> omega

/-! ### Day numbers -/

/-- An era of 400 years has 97 leap years, so counting by eras is counting leap years. -/
theorem daysOfEras_eq (year : Int) :
    year / 400 * 146097 + (year % 400 * 365 + year % 400 / 4 - year % 400 / 100) =
      365 * year + leapYears year := by
  unfold leapYears
  omega

theorem dayNumber_eq_leapYears (date : Date) :
    let year := if date.month ≤ 2 then date.year - 1 else date.year
    date.dayNumber = 365 * year + leapYears year +
      ((153 * (((date.month : Int) + 9) % 12) + 2) / 5 + date.day - 1) - 719468 := by
  intro year
  rw [← daysOfEras_eq]
  simp only [Date.dayNumber, year]
  omega

theorem Date.isValid_iff {date : Date} :
    date.isValid = true ↔ 1 ≤ date.day ∧ date.day ≤ daysInMonth date.year date.month := by
  simp [Date.isValid]

theorem month_of_daysInMonth_pos {year : Int} {month : Nat} (days : 1 ≤ daysInMonth year month) :
    1 ≤ month ∧ month ≤ 12 := by
  unfold daysInMonth at days
  split at days <;> omega

theorem daysInMonth_le (year : Int) (month : Nat) : daysInMonth year month ≤ 31 := by
  have february : (if isLeapYear year then 29 else 28) ≤ 31 := by split <;> decide
  unfold daysInMonth
  split <;> first | exact february | decide

/-- The days of four-digit years. -/
theorem dayNumber_bounds {date : Date} (isDay : date.isValid = true) (first : 0 ≤ date.year)
    (last : date.year ≤ 9999) : -720000 ≤ date.dayNumber ∧ date.dayNumber ≤ 3000000 := by
  have days := (Date.isValid_iff.mp isDay).2
  have short := daysInMonth_le date.year date.month
  rw [dayNumber_eq_leapYears]
  unfold leapYears
  split <;> omega

theorem dayNumber_eq {year month day : Nat} (isDay : (Date.mk year month day).isValid = true) :
    (Date.mk year month day).dayNumber = daysSinceEpoch year month day := by
  have epoch : (daysBeforeYear 1970 : Int) = 719528 := by rw [daysBeforeYear_eq]; rfl
  have passed := leapYears_eq year
  obtain ⟨first, last⟩ := Date.isValid_iff.mp isDay
  obtain ⟨low, high⟩ := month_of_daysInMonth_pos (Nat.le_trans first last)
  rw [dayNumber_eq_leapYears, daysSinceEpoch, epoch, daysBeforeYear_eq]
  -- Behind February, the leap day of the year itself counts as well.
  cases leap : isLeapYear year <;> rw [leap] at passed <;> interval_cases month <;>
    simp [daysBeforeMonth, daysInMonth, leap] at passed ⊢ <;> omega

end SqlWeave.Time
