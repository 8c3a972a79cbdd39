import CanaryMetrics.Calendar.Date
import CanaryMetrics.Instant.Basic
import CanaryMetrics.Text.Blank

namespace CanaryMetrics.Instant

open Calendar Text

/-!
# Reading an instant

A text is read from left to right: date, one of `T`, `t` and a space, time of day, zone.  Blanks may
stand around the date's hyphens and the time's colons and before the zone.  Reading stops at the first
fault; only then are the parts put together, which may fail once more.

* `ofText` — the instant of a text, or what is wrong with the text.
* `ReadError.message` — the wording of each fault.
-/

/-- What can be wrong with the text of an instant. -/
inductive ReadError
  /-- The text ends where more is required. -/
  | premature
  /-- A character stands where it must not. -/
  | invalid
  /-- A number is beyond its range, or the date does not exist. -/
  | outOfRange
  /-- There is text after the zone. -/
  | trailing
  /-- The instant lies outside the calendar once it is moved to UTC. -/
  | impossible
deriving DecidableEq, Repr

/-- The wording of a fault. -/
def ReadError.message : ReadError → String
  | premature => "premature end of input"
  | invalid => "input contains invalid characters"
  | outOfRange => "input is out of range"
  | trailing => "trailing input"
  | impossible => "no possible date and time matching input"

/-! ### Characters and numbers -/

/-- The text after the character `c`, which must come first. -/
def expect (c : Char) : List Char → Except ReadError (List Char)
  | [] => .error .premature
  | d :: cs => if d = c then .ok cs else .error .invalid

/-- The digits at the start of a text, at least one and at most `limit`, and the text after them. -/
def digits (limit : Nat) (cs : List Char) : Except ReadError (List Char × List Char) :=
  let ds := (cs.takeWhile Char.isDigit).take limit
  if ds = [] then .error (if cs = [] then .premature else .invalid)
  else .ok (ds, cs.drop ds.length)

/-- A number of at most `limit` digits that lies between `low` and `high`, after blanks. -/
def number (limit low high : Nat) (cs : List Char) : Except ReadError (Nat × List Char) := do
  let (ds, rest) ← digits limit (trimStart cs)
  let n := Nat.ofDigitChars 10 ds 0
  if low ≤ n ∧ n ≤ high then .ok (n, rest) else .error .outOfRange

/-! ### Date -/

/-- The digits of a year with their sign: one to four digits, or a sign and any number of digits. -/
def readYearDigits : List Char → Except ReadError (Int × List Char)
  | '-' :: cs => do
    let (ds, rest) ← digits cs.length cs
    pure (-(Nat.ofDigitChars 10 ds 0 : Int), rest)
  | '+' :: cs => do
    let (ds, rest) ← digits cs.length cs
    pure ((Nat.ofDigitChars 10 ds 0 : Int), rest)
  | cs => do
    let (ds, rest) ← digits 4 cs
    pure ((Nat.ofDigitChars 10 ds 0 : Int), rest)

/-- A year within 32 bits, after blanks. -/
def readYear (cs : List Char) : Except ReadError (Int × List Char) := do
  let (year, rest) ← readYearDigits (trimStart cs)
  if -2147483648 ≤ year ∧ year ≤ 2147483647 then .ok (year, rest) else .error .outOfRange

/-- Year, month and day of the month, with hyphens between; the date need not exist. -/
def readDate (cs : List Char) : Except ReadError (Date × List Char) := do
  let (year, cs) ← readYear cs
  let cs ← expect '-' (trimStart cs)
  let (month, cs) ← number 2 1 12 cs
  let cs ← expect '-' (trimStart cs)
  let (day, cs) ← number 2 1 31 cs
  pure (⟨year, month, day⟩, cs)

/-- The character between date and time of day. -/
def readDelimiter : List Char → Except ReadError (List Char)
  | [] => .error .premature
  | c :: cs => if c = 'T' ∨ c = 't' ∨ c = ' ' then .ok cs else .error .invalid

/-! ### Time of day -/

/-- A time of day; a second 60 is a leap second. -/
structure TimeOfDay where
  /-- The hour, at most 23. -/
  hour : Nat
  /-- The minute, at most 59. -/
  minute : Nat
  /-- The second, at most 60. -/
  second : Nat
  /-- The nanoseconds since the second began. -/
  fraction : Nat
deriving DecidableEq, Repr

/-- The nanoseconds that the digits after a point stand for; from the tenth digit on they are
    dropped. -/
def nanosOfDigits (ds : List Char) : Nat :=
  Nat.ofDigitChars 10 ((ds.take 9).rightpad 9 '0') 0

/-- The fraction of a second, 0 when no point follows. -/
def readFraction : List Char → Except ReadError (Nat × List Char)
  | '.' :: cs => do
    let (ds, rest) ← digits cs.length cs
    pure (nanosOfDigits ds, rest)
  | cs => .ok (0, cs)

/-- Hour, minute and second with colons between, and the fraction of the second. -/
def readTimeOfDay (cs : List Char) : Except ReadError (TimeOfDay × List Char) := do
  let (hour, cs) ← number 2 0 23 cs
  let cs ← expect ':' (trimStart cs)
  let (minute, cs) ← number 2 0 59 cs
  let cs ← expect ':' (trimStart cs)
  let (second, cs) ← number 2 0 60 cs
  let (fraction, cs) ← readFraction cs
  pure (⟨hour, minute, second, fraction⟩, cs)

/-! ### Zone -/

/-- Two characters, of which each must be a digit; one character, if ASCII, is too few. -/
def twoDigits : List Char → Except ReadError ((Char × Char) × List Char)
  | [] => .error .premature
  | [c] => .error (if c.toNat < 128 then .premature else .invalid)
  | c :: d :: cs => if c.isDigit ∧ d.isDigit then .ok ((c, d), cs) else .error .invalid

/-- An offset from UTC in minutes, after its sign: hours and minutes of two digits each, with any
    colons and blanks between. -/
def readOffset (cs : List Char) : Except ReadError (Nat × List Char) := do
  let ((h, h'), cs) ← twoDigits cs
  let ((m, m'), cs) ← twoDigits (cs.dropWhile fun c => c = ':' || isBlank c)
  if '6' ≤ m then .error .outOfRange
  else pure (Nat.ofDigitChars 10 [h, h'] 0 * 60 + Nat.ofDigitChars 10 [m, m'] 0, cs)

/-- The text after `UTC`, in capitals or not, if that comes first. -/
def dropUtc? : List Char → Option (List Char)
  | u :: t :: c :: cs => if [u.toLower, t.toLower, c.toLower] = ['u', 't', 'c'] then some cs else none
  | _ => none

/-- A zone as minutes east of UTC: `UTC`, `Z` or a signed offset. -/
def readZone (cs : List Char) : Except ReadError (Int × List Char) :=
  match dropUtc? cs with
  | some rest => .ok (0, rest)
  | none =>
    match cs with
    | [] => .error .premature
    | sign :: rest =>
      if sign = 'Z' ∨ sign = 'z' then .ok (0, rest)
      else if sign = '+' then do
        let (minutes, rest) ← readOffset rest
        pure ((minutes : Int), rest)
      else if sign = '-' ∨ sign = '\u2212' then do
        let (minutes, rest) ← readOffset rest
        pure (-(minutes : Int), rest)
      else .error .invalid

/-! ### The instant -/

/-- The seconds since 1970-01-01T00:00:00 of a date and time of day; a leap second counts as the
    second before it. -/
def localSeconds (d : Date) (t : TimeOfDay) : Int :=
  d.dayNumber * 86400 + (t.hour * 3600 + t.minute * 60 + min t.second 59 : Nat)

/-- The years that the calendar covers. -/
def coversYear (year : Int) : Prop :=
  -262143 ≤ year ∧ year ≤ 262142

instance (year : Int) : Decidable (coversYear year) :=
  inferInstanceAs (Decidable (_ ∧ _))

/-- The instant of a date, a time of day and a zone. -/
def ofLocal (d : Date) (t : TimeOfDay) (zone : Int) : Except ReadError Instant :=
  if zone.natAbs < 1440 ∧ d.Exists ∧ coversYear d.year then
    match ofParts? (localSeconds d t - zone * 60)
        (t.fraction + if t.second = 60 then nanosPerSecond else 0) with
    | some instant => .ok instant
    | none => .error .impossible
  else .error .outOfRange

/-- The date, time of day and zone that a text spells. -/
def readParts (cs : List Char) : Except ReadError (Date × TimeOfDay × Int) := do
  let (date, cs) ← readDate cs
  let cs ← readDelimiter cs
  let (time, cs) ← readTimeOfDay cs
  let (zone, cs) ← readZone (trimStart cs)
  if trimStart cs = [] then pure (date, time, zone) else .error .trailing

/-- The instant that a text spells, or the first fault of the text. -/
def ofText (s : String) : Except ReadError Instant := do
  let (date, time, zone) ← readParts s.toList
  ofLocal date time zone

/-! ### Unit test: spellings of one instant, and one text for each fault -/

example : [" 2010 - 1-1 12:00:0z ", "+2010-01-01t13:00:00.0+01:00", "2010-01-01T12:00:00utc"].map
      (fun s => (ofText s).toOption.map fun t => (t.seconds, t.nanos))
    = List.replicate 3 (some (1262347200, 0)) := by decide

example : ["2010-01-01T12:", "2010-01-01_12:00:00Z", "2010-02-29T00:00:00Z", "2010-01-01T12:00:00ZZ",
      "-262143-01-01T00:00:00+00:01"].map (fun s => (ofText s).toBool) = List.replicate 5 false := by
  decide

example : ofText "-262143-01-01T00:00:00+00:01" = .error .impossible := by cbv

end CanaryMetrics.Instant
