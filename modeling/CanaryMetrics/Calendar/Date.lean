namespace CanaryMetrics.Calendar

/-!
# Dates of the proleptic Gregorian calendar

Days are numbered from 1970-01-01, which is day 0.

* `Date.dayNumber` — the number of a date: whole years, then whole months, then days.
* `Date.ofDayNumber` — the date of a number.
* `daysBeforeYear_succ`, `daysBeforeMonth_succ` — the day count grows by the length of each year and
  of each month.
-/

/-- Every fourth year is a leap year, but of the full centuries only every fourth. -/
def isLeapYear (year : Int) : Bool :=
  year % 4 = 0 && (year % 100 ≠ 0 || year % 400 = 0)

/-- The number of days in a year. -/
def yearLength (year : Int) : Int :=
  if isLeapYear year then 366 else 365

/-- The number of days in a month of a year, months counting from 1. -/
def monthLength (year : Int) (month : Nat) : Nat :=
  if month = 2 then if isLeapYear year then 29 else 28
  else if month ∈ [4, 6, 9, 11] then 30
  else 31

/-! ### Counting days -/

/-- The days from 1970-01-01 to the first day of a year. -/
def daysBeforeYear (year : Int) : Int :=
  let y := year - 1
  365 * y + y / 4 - y / 100 + y / 400 - 719162

/-- The days from the first day of a year to the first day of one of its months. -/
def daysBeforeMonth (year : Int) : Nat → Nat
  | 0 => 0
  | 1 => 0
  | month + 2 => daysBeforeMonth year (month + 1) + monthLength year (month + 1)

@[simp]
theorem daysBeforeYear_epoch : daysBeforeYear 1970 = 0 := by decide

@[simp]
theorem daysBeforeMonth_one (year : Int) : daysBeforeMonth year 1 = 0 := rfl

/-- The count of days grows by the length of each year. -/
theorem daysBeforeYear_succ (year : Int) :
    daysBeforeYear (year + 1) = daysBeforeYear year + yearLength year := by
  simp only [daysBeforeYear, yearLength, isLeapYear, Bool.and_eq_true, Bool.or_eq_true,
    decide_eq_true_eq]
  split <;> omega

/-- Within a year the count of days grows by the length of each month. -/
theorem daysBeforeMonth_succ (year : Int) {month : Nat} (h : 1 ≤ month) :
    daysBeforeMonth year (month + 1) = daysBeforeMonth year month + monthLength year month := by
  obtain ⟨m, rfl⟩ := Nat.exists_eq_add_of_le' h
  rfl

/-! ### Dates -/

/-- A year, a month from 1 and a day of the month from 1. -/
structure Date where
  /-- The year; the year before year 1 is year 0. -/
  year : Int
  /-- The month, January being 1. -/
  month : Nat
  /-- The day of the month. -/
  day : Nat
deriving DecidableEq, Repr

namespace Date

/-- A date exists when its month is one of twelve and has such a day. -/
def Exists (d : Date) : Prop :=
  1 ≤ d.month ∧ d.month ≤ 12 ∧ 1 ≤ d.day ∧ d.day ≤ monthLength d.year d.month

instance (d : Date) : Decidable d.Exists :=
  inferInstanceAs (Decidable (_ ∧ _))

/-- The number of a date's day, 1970-01-01 being 0. -/
def dayNumber (d : Date) : Int :=
  daysBeforeYear d.year + daysBeforeMonth d.year d.month + d.day - 1

/-- The number of whole centuries, of four-year cycles and of years that `days` days after the first
    day of a 400-year cycle hold, as a number of years from 0 to 399.  The last day of a leap year
    that ends a cycle still belongs to it. -/
def yearOfCycle (days : Int) : Int :=
  let centuries := min (days / 36524) 3
  let inCentury := days - centuries * 36524
  let fourYears := inCentury / 1461
  let inFourYears := inCentury - fourYears * 1461
  100 * centuries + 4 * fourYears + min (inFourYears / 365) 3

/-- The year that holds a day. -/
def yearOfDay (number : Int) : Int :=
  let days := number + 719162
  400 * (days / 146097) + yearOfCycle (days % 146097) + 1

/-- The month, from `month` on, and day of the month that lie `days` days after the first day of
    `month`; at most `fuel` months are passed. -/
def monthAndDay (year : Int) : (fuel : Nat) → (month days : Nat) → Nat × Nat
  | 0, month, days => (month, days + 1)
  | fuel + 1, month, days =>
    if days < monthLength year month then (month, days + 1)
    else monthAndDay year fuel (month + 1) (days - monthLength year month)

/-- The date of the day with a number, 1970-01-01 being 0. -/
def ofDayNumber (number : Int) : Date :=
  let year := yearOfDay number
  let found := monthAndDay year 11 1 (number - daysBeforeYear year).toNat
  ⟨year, found.1, found.2⟩

/-! ### Unit test: the ends of long cycles -/

example : (ofDayNumber 0, ofDayNumber (-1)) = (⟨1970, 1, 1⟩, ⟨1969, 12, 31⟩) := by decide

example : [⟨2000, 2, 29⟩, ⟨2000, 12, 31⟩, ⟨2001, 1, 1⟩, ⟨1900, 3, 1⟩, ⟨0, 2, 29⟩, ⟨-1, 12, 31⟩,
    ⟨-262143, 1, 1⟩, ⟨262142, 12, 31⟩].all (fun d => ofDayNumber d.dayNumber = d) = true := by decide

example : (⟨1970, 1, 1⟩ : Date).dayNumber = 0 := by decide

example : ¬ (⟨1900, 2, 29⟩ : Date).Exists := by decide

end Date

end CanaryMetrics.Calendar
