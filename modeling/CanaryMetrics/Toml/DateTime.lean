import CanaryMetrics.Calendar.Date
import CanaryMetrics.Text.Padded

namespace CanaryMetrics.Toml

open Calendar Text

/-!
# TOML dates and times

* `DateTime` — a date, a time of day or both, and then perhaps an offset from UTC.
* `DateTime.ofChars?` — reads one; dates must exist and times must be on the clock.
* `DateTime.text` — writes one in a single fixed form.
-/

/-- A time of day. -/
structure Time where
  /-- The hour, at most 23. -/
  hour : Nat
  /-- The minute, at most 59. -/
  minute : Nat
  /-- The second, at most 60. -/
  second : Nat
  /-- The nanoseconds since the second began. -/
  nanos : Nat
deriving DecidableEq, Repr

/-- An offset from UTC. -/
inductive Zone
  /-- UTC itself, spelled `Z`. -/
  | utc
  /-- So many minutes east of UTC. -/
  | east (minutes : Int)
deriving DecidableEq, Repr

/-- A date, a time of day or both. -/
inductive DateTime
  /-- A date alone. -/
  | date (d : Date)
  /-- A time of day alone. -/
  | time (t : Time)
  /-- A date, a time of day and perhaps an offset. -/
  | both (d : Date) (t : Time) (zone : Option Zone)
deriving DecidableEq, Repr

namespace DateTime

/-! ### Reading -/

/-- A number of exactly two digits, at most `high`. -/
def twoDigits? (high : Nat) : List Char → Option (Nat × List Char)
  | a :: b :: cs =>
    let n := Nat.ofDigitChars 10 [a, b] 0
    if a.isDigit ∧ b.isDigit ∧ n ≤ high then some (n, cs) else none
  | _ => none

/-- The text after the character `c`, if it comes first. -/
def expect? (c : Char) : List Char → Option (List Char)
  | d :: cs => if d = c then some cs else none
  | [] => none

/-- A date: four digits, two and two, with hyphens between. -/
def readDate? (cs : List Char) : Option (Date × List Char) := do
  let (century, cs) ← twoDigits? 99 cs
  let (year, cs) ← twoDigits? 99 cs
  let (month, cs) ← twoDigits? 12 (← expect? '-' cs)
  let (day, cs) ← twoDigits? 31 (← expect? '-' cs)
  let d : Date := ⟨(century * 100 + year : Nat), month, day⟩
  if d.Exists then pure (d, cs) else none

/-- The fraction of a second in nanoseconds; digits after the ninth are dropped. -/
def readFraction? : List Char → Option (Nat × List Char)
  | '.' :: cs =>
    let ds := cs.takeWhile Char.isDigit
    if ds = [] then none
    else some (Nat.ofDigitChars 10 ((ds.take 9).rightpad 9 '0') 0, cs.dropWhile Char.isDigit)
  | cs => some (0, cs)

/-- A time of day: hour, minute and second of two digits, with colons between. -/
def readTime? (cs : List Char) : Option (Time × List Char) := do
  let (hour, cs) ← twoDigits? 23 cs
  let (minute, cs) ← twoDigits? 59 (← expect? ':' cs)
  let (second, cs) ← twoDigits? 60 (← expect? ':' cs)
  let (nanos, cs) ← readFraction? cs
  pure (⟨hour, minute, second, nanos⟩, cs)

/-- An offset that is the whole rest of the text, or none at the end of the text. -/
def readZone? : List Char → Option (Option Zone)
  | [] => some none
  | sign :: cs => do
    if (sign = 'Z' ∨ sign = 'z') ∧ cs = [] then pure (some .utc)
    else if sign = '+' ∨ sign = '-' then
      let (hours, cs) ← twoDigits? 23 cs
      let (minutes, cs) ← twoDigits? 59 (← expect? ':' cs)
      let east : Int := (hours * 60 + minutes : Nat)
      if cs = [] then pure (some (.east (if sign = '-' then -east else east))) else none
    else none

/-- The date or time that a text spells; `T`, `t` or one space stands between date and time. -/
def ofChars? (cs : List Char) : Option DateTime :=
  match readDate? cs with
  | some (d, []) => some (date d)
  | some (d, delimiter :: rest) =>
    if delimiter = 'T' ∨ delimiter = 't' ∨ delimiter = ' ' then do
      let (t, rest) ← readTime? rest
      pure (both d t (← readZone? rest))
    else none
  | none =>
    match readTime? cs with
    | some (t, []) => some (time t)
    | _ => none

/-! ### Writing -/

/-- A date with a year of four digits. -/
def dateText (d : Date) : String :=
  padded 4 d.year.toNat ++ "-" ++ padded 2 d.month ++ "-" ++ padded 2 d.day

/-- Nanoseconds as a fraction without zeros at its end; nothing for a whole second. -/
def fractionText (nanos : Nat) : String :=
  if nanos = 0 then ""
  else String.ofList ('.' :: ((paddedDigits 9 nanos).reverse.dropWhile (· = '0')).reverse)

/-- A time of day. -/
def timeText (t : Time) : String :=
  padded 2 t.hour ++ ":" ++ padded 2 t.minute ++ ":" ++ padded 2 t.second ++ fractionText t.nanos

/-- An offset from UTC. -/
def zoneText : Zone → String
  | .utc => "Z"
  | .east minutes =>
    (if minutes < 0 then "-" else "+") ++ padded 2 (minutes.natAbs / 60) ++ ":"
      ++ padded 2 (minutes.natAbs % 60)

/-- A date or time as text. -/
def text : DateTime → String
  | date d => dateText d
  | time t => timeText t
  | both d t zone => dateText d ++ "T" ++ timeText t ++ (zone.map zoneText).getD ""

/-! ### Unit test: each kind, and dates and times that do not exist -/

example : ["1979-05-27", "07:32:00.50", "1979-05-27t07:32:00", "1979-05-27 07:32:60z",
      "1979-05-27T00:32:00.999999-00:00"].map (fun s => (ofChars? s.toList).map text)
    = ["1979-05-27", "07:32:00.5", "1979-05-27T07:32:00", "1979-05-27T07:32:60Z",
      "1979-05-27T00:32:00.999999+00:00"].map some := by decide +kernel

example : ["1979-02-30", "25:00:00", "1979-05-27T07:32", "07:32:00Z", "1979-05-27T07:32:00+1:00"].map
    (fun s => ofChars? s.toList) = List.replicate 5 none := by decide +kernel

end DateTime

end CanaryMetrics.Toml
