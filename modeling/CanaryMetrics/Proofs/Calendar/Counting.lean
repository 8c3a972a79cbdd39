import CanaryMetrics.Proofs.Calendar.DayNumber

namespace CanaryMetrics.Calendar

/-!
# Days counted one year and one month at a time

* `daysOfYears`, `daysOfMonths` — the days of years and of months that follow each other.
* `Date.countedDays` — the days from 1970-01-01 to a date, counted with these.
* `Date.countedDays_eq_dayNumber` — the count is the number that the closed form gives.
-/

/-! ### Years -/

/-- The days of `count` years, the first of them `first`. -/
def daysOfYears (first : Int) : (count : Nat) → Int
  | 0 => 0
  | count + 1 => yearLength first + daysOfYears (first + 1) count

/-- From the first day of one year to that of a later one there are the days of the years between. -/
theorem daysBeforeYear_add (first : Int) (count : Nat) :
    daysBeforeYear (first + count) = daysBeforeYear first + daysOfYears first count := by
  induction count generalizing first with
  | zero => simp [daysOfYears]
  | succ count ih =>
    have hyear : first + (count + 1 : Nat) = first + 1 + count := by omega
    rw [hyear, ih, daysBeforeYear_succ, daysOfYears]
    omega

/-- The days from 1970-01-01 to the first day of a year, counted backwards for an earlier year. -/
theorem daysBeforeYear_eq_daysOfYears (year : Int) :
    daysBeforeYear year
      = daysOfYears 1970 (year - 1970).toNat - daysOfYears year (1970 - year).toNat := by
  -- counted forwards from 1970 or backwards to it, one of the two counts is empty
  rcases Int.le_total 1970 year with hlater | hearlier
  · have hcount := daysBeforeYear_add 1970 (year - 1970).toNat
    have hyear : 1970 + ((year - 1970).toNat : Int) = year := by omega
    have hnone : (1970 - year).toNat = 0 := by omega
    rw [hyear, daysBeforeYear_epoch] at hcount
    rw [hnone, daysOfYears]
    omega
  · have hcount := daysBeforeYear_add year (1970 - year).toNat
    have hepoch : year + ((1970 - year).toNat : Int) = 1970 := by omega
    have hnone : (year - 1970).toNat = 0 := by omega
    rw [hepoch, daysBeforeYear_epoch] at hcount
    rw [hnone, daysOfYears]
    omega

/-! ### Months -/

/-- The days of `count` months of a year, the first of them `first`. -/
def daysOfMonths (year : Int) (first : Nat) : (count : Nat) → Nat
  | 0 => 0
  | count + 1 => monthLength year first + daysOfMonths year (first + 1) count

/-- From the first day of one month to that of a later one there are the days of the months between. -/
theorem daysBeforeMonth_add (year : Int) {first : Nat} (h : 1 ≤ first) (count : Nat) :
    daysBeforeMonth year (first + count)
      = daysBeforeMonth year first + daysOfMonths year first count := by
  induction count generalizing first with
  | zero => rfl
  | succ count ih =>
    have hmonth : first + (count + 1) = first + 1 + count := by omega
    rw [hmonth, ih (by omega), daysBeforeMonth_succ year h, daysOfMonths]
    omega

/-! ### Dates -/

namespace Date

/-- The days from 1970-01-01 to a date: whole years, backwards for an earlier year, then whole months,
    then days. -/
def countedDays (d : Date) : Int :=
  daysOfYears 1970 (d.year - 1970).toNat - daysOfYears d.year (1970 - d.year).toNat
    + daysOfMonths d.year 1 (d.month - 1) + (d.day - 1)

/-- **The closed form counts days.**  It is the number of days that years and months add up to. -/
theorem countedDays_eq_dayNumber {d : Date} (h : 1 ≤ d.month) : d.countedDays = d.dayNumber := by
  have hmonth := daysBeforeMonth_add d.year (Nat.le_refl 1) (d.month - 1)
  rw [Nat.add_sub_cancel' h, daysBeforeMonth_one, Nat.zero_add] at hmonth
  rw [countedDays, dayNumber, ← daysBeforeYear_eq_daysOfYears, hmonth]
  omega

/-! ### Unit test: a leap day, and a day before the epoch -/

example : (⟨1972, 2, 29⟩ : Date).countedDays = 789 ∧ (⟨1968, 12, 31⟩ : Date).countedDays = -366 := by
  decide

end Date

end CanaryMetrics.Calendar
