import CanaryMetrics.Calendar.Date
import CanaryMetrics.Instant.Basic
import CanaryMetrics.Text.Padded

namespace CanaryMetrics.Instant

open Calendar Text

/-!
# The text of an instant

* `Instant.text` — `YYYY-MM-DDTHH:MM:SS[.fraction]Z` in UTC: a sign before years outside 0 to 9999,
  second 60 in a leap second, and no, three, six or nine digits of fraction.
-/

/-- The day of an instant. -/
def date (t : Instant) : Date :=
  Date.ofDayNumber (t.seconds / 86400)

/-- The number of seconds since the start of the day, leap second not counted. -/
def secondOfDay (t : Instant) : Nat :=
  (t.seconds % 86400).toNat

/-- The hour of the day. -/
def hour (t : Instant) : Nat := t.secondOfDay / 3600

/-- The minute of the hour. -/
def minute (t : Instant) : Nat := t.secondOfDay / 60 % 60

/-- The second of the minute, 60 in a leap second. -/
def second (t : Instant) : Nat :=
  t.secondOfDay % 60 + if t.inLeapSecond then 1 else 0

/-- The nanoseconds since the second, or the leap second, began. -/
def fraction (t : Instant) : Nat :=
  t.nanos % nanosPerSecond

/-- A year has four digits; outside 0 to 9999 it has a sign and at least four. -/
def yearText (year : Int) : String :=
  if year < 0 then "-" ++ padded 4 year.natAbs
  else if 9999 < year then "+" ++ padded 4 year.natAbs
  else padded 4 year.natAbs

/-- A date as year, month and day. -/
def dateText (d : Date) : String :=
  yearText d.year ++ "-" ++ padded 2 d.month ++ "-" ++ padded 2 d.day

/-- The fraction of a second in milliseconds, microseconds or nanoseconds, whichever is the coarsest
    that is exact; nothing for a whole second. -/
def fractionText (nanos : Nat) : String :=
  if nanos = 0 then ""
  else if nanos % 1000000 = 0 then "." ++ padded 3 (nanos / 1000000)
  else if nanos % 1000 = 0 then "." ++ padded 6 (nanos / 1000)
  else "." ++ padded 9 nanos

/-- An instant as date and time of day in UTC. -/
def text (t : Instant) : String :=
  dateText t.date ++ "T" ++ padded 2 t.hour ++ ":" ++ padded 2 t.minute ++ ":" ++ padded 2 t.second
    ++ fractionText t.fraction ++ "Z"

/-! ### Unit test: years of every form, fractions of every width, a leap second -/

example : text ⟨1262347200, 0, by decide, by decide, by decide⟩ = "2010-01-01T12:00:00Z" := by decide

example : text ⟨1262347200, 500000000, by decide, by decide, by decide⟩
    = "2010-01-01T12:00:00.500Z" := by decide

example : text ⟨59, 1000000001, by decide, by decide, by decide⟩
    = "1970-01-01T00:00:60.000000001Z" := by decide

example : text ⟨firstSecond, 0, by decide, by decide, by decide⟩ = "-262143-01-01T00:00:00Z" := by
  decide

example : text ⟨lastSecond, 1999999000, by decide, by decide, by decide⟩
    = "+262142-12-31T23:59:60.999999Z" := by decide

end CanaryMetrics.Instant
