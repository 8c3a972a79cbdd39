import CanaryMetrics.Calendar.Date

namespace CanaryMetrics.Calendar

/-!
# Days and dates

A day's number is turned into its date by arithmetic in closed form: the year from the lengths of
the 400-year cycle, the century and the four-year cycle, the month by taking off whole months.  Here
that is compared with the plain count of days by years and months.

* `daysBeforeYear_yearOfDay_le`, `lt_daysBeforeYear_succ_yearOfDay` — a day lies in the year that is
  found for it.
* `monthAndDay_spec` — taking off whole months ends within a month of the year.
* `exists_ofDayNumber`, `dayNumber_ofDayNumber` — the date that is found exists and has the number.
-/

/-! ### The year of a day -/

/-- Within a cycle of 400 years, the days before a year: whole years, and one more for each leap
    year. -/
def daysOfCycle (years : Int) : Int :=
  365 * years + years / 4 - years / 100 + years / 400

/-- Years are counted in cycles of 400, which are 146097 days long. -/
theorem daysBeforeYear_add_cycles (cycles years : Int) :
    daysBeforeYear (400 * cycles + years + 1) = 146097 * cycles + daysOfCycle years - 719162 := by
  simp only [daysBeforeYear, daysOfCycle]
  omega

/-- The parts that the year of a day in a cycle is put together from. -/
theorem yearOfCycle_eq {days : Int} (h₀ : 0 ≤ days) (h₁ : days < 146097) :
    ∃ centuries fourYears years : Int,
      Date.yearOfCycle days = 100 * centuries + 4 * fourYears + years ∧
      0 ≤ centuries ∧ centuries ≤ 3 ∧ 0 ≤ fourYears ∧ fourYears ≤ 24 ∧ 0 ≤ years ∧ years ≤ 3 ∧
      36524 * centuries + 1461 * fourYears + 365 * years ≤ days ∧
      (days < 36524 * centuries + 1461 * fourYears + 365 * (years + 1) ∨
        (years = 3 ∧ days = 36524 * centuries + 1461 * fourYears + 1460 ∧
          (fourYears ≤ 23 ∨ centuries = 3))) := by
  -- the last day of 400 years would begin a fifth century, and that of four years a fifth year
  refine ⟨min (days / 36524) 3, (days - min (days / 36524) 3 * 36524) / 1461,
    min ((days - min (days / 36524) 3 * 36524
      - (days - min (days / 36524) 3 * 36524) / 1461 * 1461) / 365) 3, rfl, ?_⟩
  omega

/-- A day of a cycle lies in the year that is found for it. -/
theorem daysOfCycle_yearOfCycle (days : Int) (h₀ : 0 ≤ days) (h₁ : days < 146097) :
    daysOfCycle (Date.yearOfCycle days) ≤ days ∧
      days < daysOfCycle (Date.yearOfCycle days + 1) := by
  obtain ⟨centuries, fourYears, years, hyear, hc₀, hc₁, hf₀, hf₁, hy₀, hy₁, hle, hlt⟩ :=
    yearOfCycle_eq h₀ h₁
  rw [hyear]
  simp only [daysOfCycle]
  -- the leap days before the year, counted from its parts
  have hquarter : (100 * centuries + 4 * fourYears + years) / 4 = 25 * centuries + fourYears := by
    omega
  have hcentury : (100 * centuries + 4 * fourYears + years) / 100 = centuries := by omega
  have hcycle : (100 * centuries + 4 * fourYears + years) / 400 = 0 := by omega
  rw [hquarter, hcentury, hcycle]
  refine ⟨by omega, ?_⟩
  -- the year after it begins new four years only if it is the fourth, and a new century only if
  -- these are the last four years of one
  by_cases hfourth : years = 3
  · subst hfourth
    have hquarter' : (100 * centuries + 4 * fourYears + 3 + 1) / 4
        = 25 * centuries + fourYears + 1 := by
      omega
    rw [hquarter']
    by_cases hlast : fourYears = 24
    · subst hlast
      have hcentury' : (100 * centuries + 4 * 24 + 3 + 1) / 100 = centuries + 1 := by omega
      rw [hcentury']
      omega
    · have hcentury' : (100 * centuries + 4 * fourYears + 3 + 1) / 100 = centuries := by omega
      rw [hcentury']
      omega
  · have hquarter' : (100 * centuries + 4 * fourYears + years + 1) / 4
        = 25 * centuries + fourYears := by
      omega
    have hcentury' : (100 * centuries + 4 * fourYears + years + 1) / 100 = centuries := by omega
    rw [hquarter', hcentury']
    omega

/-- The years before a day's year lie before the day. -/
theorem daysBeforeYear_yearOfDay_le (number : Int) :
    daysBeforeYear (Date.yearOfDay number) ≤ number := by
  have hcycle := daysOfCycle_yearOfCycle ((number + 719162) % 146097) (by omega) (by omega)
  simp only [Date.yearOfDay, daysBeforeYear_add_cycles]
  omega

/-- A day lies before the year after its own. -/
theorem lt_daysBeforeYear_succ_yearOfDay (number : Int) :
    number < daysBeforeYear (Date.yearOfDay number + 1) := by
  have hcycle := daysOfCycle_yearOfCycle ((number + 719162) % 146097) (by omega) (by omega)
  have hsucc : Date.yearOfDay number + 1
      = 400 * ((number + 719162) / 146097)
        + (Date.yearOfCycle ((number + 719162) % 146097) + 1) + 1 := by
    simp only [Date.yearOfDay]
    omega
  rw [hsucc, daysBeforeYear_add_cycles]
  omega

/-- Later years begin later. -/
theorem daysBeforeYear_mono {y z : Int} (h : y ≤ z) : daysBeforeYear y ≤ daysBeforeYear z := by
  simp only [daysBeforeYear]
  omega

/-! ### The month of a day -/

/-- The twelve months make up the year. -/
theorem daysBeforeMonth_thirteen (year : Int) :
    (daysBeforeMonth year 13 : Int) = yearLength year := by
  simp only [daysBeforeMonth, monthLength, yearLength]
  by_cases h : isLeapYear year = true <;> simp [h]

/-- Whole months are taken off until the rest lies within one; the months passed and the rest make
    up what there was. -/
theorem monthAndDay_spec (year : Int) (fuel month days : Nat) (hmonth : 1 ≤ month)
    (hfuel : month + fuel = 12)
    (hdays : daysBeforeMonth year month + days < daysBeforeMonth year 13) :
    month ≤ (Date.monthAndDay year fuel month days).1 ∧
      (Date.monthAndDay year fuel month days).1 ≤ 12 ∧
      1 ≤ (Date.monthAndDay year fuel month days).2 ∧
      (Date.monthAndDay year fuel month days).2
        ≤ monthLength year (Date.monthAndDay year fuel month days).1 ∧
      daysBeforeMonth year (Date.monthAndDay year fuel month days).1
          + (Date.monthAndDay year fuel month days).2
        = daysBeforeMonth year month + days + 1 := by
  induction fuel generalizing month days with
  | zero =>
    -- December is the only month left
    obtain rfl : month = 12 := by omega
    have hsucc : daysBeforeMonth year 13 = _ := daysBeforeMonth_succ year (show 1 ≤ 12 by omega)
    simp only [Date.monthAndDay]
    omega
  | succ fuel ih =>
    rw [Date.monthAndDay]
    split
    · simp only
      omega
    · -- the month has passed, and its days go over to the days before the next one
      have hsucc := daysBeforeMonth_succ year hmonth
      have := ih (month + 1) (days - monthLength year month) (by omega) (by omega) (by omega)
      omega

/-! ### The date of a day -/

namespace Date

/-- A day's place in its year. -/
theorem toNat_sub_daysBeforeYear (number : Int) :
    ((number - daysBeforeYear (yearOfDay number)).toNat : Int)
      = number - daysBeforeYear (yearOfDay number) := by
  have := daysBeforeYear_yearOfDay_le number
  omega

/-- The month and the day of the month that are found for a day's place in its year. -/
theorem ofDayNumber_spec (number : Int) :
    1 ≤ (ofDayNumber number).month ∧ (ofDayNumber number).month ≤ 12 ∧
      1 ≤ (ofDayNumber number).day ∧
      (ofDayNumber number).day ≤ monthLength (ofDayNumber number).year (ofDayNumber number).month ∧
      (daysBeforeMonth (ofDayNumber number).year (ofDayNumber number).month
          + (ofDayNumber number).day : Int)
        = number - daysBeforeYear (yearOfDay number) + 1 := by
  have hplace := toNat_sub_daysBeforeYear number
  have hlt := lt_daysBeforeYear_succ_yearOfDay number
  rw [daysBeforeYear_succ, ← daysBeforeMonth_thirteen] at hlt
  -- the months are searched from January on, before which no day of the year has passed
  have hmonth := monthAndDay_spec (yearOfDay number) 11 1
    (number - daysBeforeYear (yearOfDay number)).toNat (by omega) (by omega)
    (by rw [daysBeforeMonth_one]; omega)
  rw [daysBeforeMonth_one] at hmonth
  obtain ⟨h₁, h₂, h₃, h₄, h₅⟩ := hmonth
  refine ⟨h₁, h₂, h₃, h₄, ?_⟩
  simp only [ofDayNumber]
  omega

/-- The date of a day exists. -/
theorem exists_ofDayNumber (number : Int) : (ofDayNumber number).Exists := by
  obtain ⟨h₁, h₂, h₃, h₄, -⟩ := ofDayNumber_spec number
  exact ⟨h₁, h₂, h₃, h₄⟩

/-- **The date of a day has the day's number.** -/
theorem dayNumber_ofDayNumber (number : Int) : (ofDayNumber number).dayNumber = number := by
  obtain ⟨-, -, -, -, h⟩ := ofDayNumber_spec number
  show daysBeforeYear (yearOfDay number) + _ + _ - 1 = number
  omega

end Date

end CanaryMetrics.Calendar
