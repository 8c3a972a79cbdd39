import CanaryMetrics.Instant.Reader
import CanaryMetrics.Proofs.Text.DigitRun
import Mathlib.Data.List.TakeWhile

namespace CanaryMetrics.Instant

open Calendar Text

/-!
# The grammar of instants

How the text of an instant can be divided into its parts, and what each part stands for.  Nothing is
said here about the order in which a reader looks for them.

* `Blanks`, `NumberText`, `Mark`, `ShortNumber` — what all parts are made of.
* `YearText`, `DateText`, `FractionText`, `TimeText`, `OffsetText`, `ZoneText` — the parts.
* `Spells` — a text as a whole.
* `ZoneText.head` — how a zone begins, which shows where the part before it ends.
-/

/-! ### What parts are made of -/

/-- White space, or nothing. -/
def Blanks (cs : List Char) : Prop :=
  ∀ c ∈ cs, isBlank c = true

/-- One or more digits that spell a number. -/
structure NumberText (ds : List Char) (n : Nat) : Prop where
  /-- There are digits only. -/
  isDigit : ∀ c ∈ ds, c.isDigit = true
  /-- There is one. -/
  ne_nil : ds ≠ []
  /-- They spell the number. -/
  value : Nat.ofDigitChars 10 ds 0 = n

/-- A character after white space. -/
inductive Mark (c : Char) : List Char → Prop
  /-- White space and the character. -/
  | intro {bs : List Char} (hbs : Blanks bs) : Mark c (bs ++ [c])

/-- A number of one or two digits after white space. -/
inductive ShortNumber : List Char → Nat → Prop
  /-- White space and the digits. -/
  | intro {bs ds : List Char} {n : Nat} (hbs : Blanks bs) (hds : NumberText ds n)
    (hlength : ds.length ≤ 2) : ShortNumber (bs ++ ds) n

/-! ### The date -/

/-- A year. -/
inductive YearText : List Char → Int → Prop
  /-- At most four digits. -/
  | unsigned {ds : List Char} {n : Nat} (hds : NumberText ds n) (hlength : ds.length ≤ 4) :
    YearText ds n
  /-- A plus sign and any number of digits. -/
  | plus {ds : List Char} {n : Nat} (hds : NumberText ds n) : YearText ('+' :: ds) n
  /-- A minus sign and any number of digits. -/
  | minus {ds : List Char} {n : Nat} (hds : NumberText ds n) : YearText ('-' :: ds) (-n)

/-- A date: year, month and day with hyphens between. -/
inductive DateText : List Char → Date → Prop
  /-- White space before the year, and the parts. -/
  | intro {bs year month day hyphen hyphen' : List Char} {y : Int} {m d : Nat}
    (hbs : Blanks bs) (hyear : YearText year y) (hhyphen : Mark '-' hyphen)
    (hmonth : ShortNumber month m) (hhyphen' : Mark '-' hyphen') (hday : ShortNumber day d) :
    DateText (bs ++ (year ++ (hyphen ++ (month ++ (hyphen' ++ day))))) ⟨y, m, d⟩

/-! ### The time of day -/

/-- The nanoseconds of a fraction of a second, what is less than one left out. -/
inductive FractionText : List Char → Nat → Prop
  /-- No fraction. -/
  | none : FractionText [] 0
  /-- A point and any number of digits. -/
  | point {ds : List Char} {n : Nat} (hds : NumberText ds n) :
    FractionText ('.' :: ds) (n * nanosPerSecond / 10 ^ ds.length)

/-- A time of day: hour, minute and second with colons between, and a fraction. -/
inductive TimeText : List Char → TimeOfDay → Prop
  /-- The parts. -/
  | intro {hour minute second fraction colon colon' : List Char} {h m s f : Nat}
    (hhour : ShortNumber hour h) (hcolon : Mark ':' colon) (hminute : ShortNumber minute m)
    (hcolon' : Mark ':' colon') (hsecond : ShortNumber second s)
    (hfraction : FractionText fraction f) :
    TimeText (hour ++ (colon ++ (minute ++ (colon' ++ (second ++ fraction))))) ⟨h, m, s, f⟩

/-! ### The zone -/

/-- An offset in minutes: hours and minutes of two digits each, with colons and white space between. -/
inductive OffsetText : List Char → Nat → Prop
  /-- The parts. -/
  | intro {hours between minutes : List Char} {h m : Nat} (hhours : NumberText hours h)
    (htwo : hours.length = 2) (hbetween : ∀ c ∈ between, c = ':' ∨ isBlank c = true)
    (hminutes : NumberText minutes m) (htwo' : minutes.length = 2) (hlt : m < 60) :
    OffsetText (hours ++ (between ++ minutes)) (h * 60 + m)

/-- A zone in minutes east of UTC. -/
inductive ZoneText : List Char → Int → Prop
  /-- `UTC`, in capitals or not. -/
  | utc {u t c : Char} (hu : u ∈ ['U', 'u']) (ht : t ∈ ['T', 't']) (hc : c ∈ ['C', 'c']) :
    ZoneText [u, t, c] 0
  /-- `Z`, in capitals or not. -/
  | zulu {z : Char} (hz : z ∈ ['Z', 'z']) : ZoneText [z] 0
  /-- A plus sign and an offset. -/
  | east {cs : List Char} {n : Nat} (h : OffsetText cs n) : ZoneText ('+' :: cs) n
  /-- A hyphen or a minus sign and an offset. -/
  | west {sign : Char} {cs : List Char} {n : Nat} (hsign : sign ∈ ['-', '\u2212'])
    (h : OffsetText cs n) : ZoneText (sign :: cs) (-n)

/-! ### The whole text -/

/-- A text spells a date, a time of day and a zone. -/
inductive Spells : List Char → Date → TimeOfDay → Int → Prop
  /-- Date, delimiter, time of day and zone, with white space before and after the zone. -/
  | intro {date time bs zone bs' : List Char} {delimiter : Char} {d : Date} {t : TimeOfDay}
    {z : Int} (hdate : DateText date d) (hdelimiter : delimiter ∈ ['T', 't', ' '])
    (htime : TimeText time t) (hbs : Blanks bs) (hzone : ZoneText zone z) (hbs' : Blanks bs') :
    Spells (date ++ delimiter :: (time ++ (bs ++ (zone ++ bs')))) d t z

/-! ### White space -/

variable {bs cs : List Char}

/-- White space in front is trimmed. -/
theorem trimStart_blanks_append (hbs : Blanks bs) (rest : List Char) :
    trimStart (bs ++ rest) = trimStart rest :=
  List.dropWhile_append_of_pos hbs

/-- What is trimmed is white space. -/
theorem exists_blanks_append_trimStart (cs : List Char) : ∃ bs, Blanks bs ∧ cs = bs ++ trimStart cs :=
  ⟨cs.takeWhile isBlank, fun c hc => List.all_eq_true.1 List.all_takeWhile c hc,
    List.takeWhile_append_dropWhile.symm⟩

/-- All is trimmed exactly if it is white space. -/
theorem trimStart_eq_nil_iff : trimStart cs = [] ↔ Blanks cs := by
  rw [trimStart, List.dropWhile_eq_nil_iff]
  rfl

/-- What holds of every blank and of the first character of a text holds of the first one after white
    space was put in front. -/
theorem head_blanks_append {P : Char → Prop} (hblank : ∀ c, isBlank c = true → P c) (hbs : Blanks bs)
    {rest : List Char} (hrest : ∀ c ∈ rest.head?, P c) : ∀ c ∈ (bs ++ rest).head?, P c := by
  intro c hc
  cases bs with
  | nil => exact hrest c hc
  | cons b bs =>
    cases hc
    exact hblank _ (hbs _ List.mem_cons_self)

/-- A blank is no digit. -/
theorem isDigit_of_isBlank {c : Char} (h : isBlank c = true) : c.isDigit = false := by
  cases hdigit : c.isDigit with
  | false => rfl
  | true =>
    rw [isBlank_of_isDigit hdigit] at h
    cases h

/-- White space in front of a text in which no digit comes first leaves it so. -/
theorem noDigitFirst_blanks_append (hbs : Blanks bs) {rest : List Char} (hrest : NoDigitFirst rest) :
    NoDigitFirst (bs ++ rest) :=
  head_blanks_append (fun _ => isDigit_of_isBlank) hbs hrest

/-- No digit comes first where a mark does. -/
theorem Mark.noDigitFirst {c : Char} (h : Mark c cs) (hc : c.isDigit = false) (rest : List Char) :
    NoDigitFirst (cs ++ rest) := by
  cases h with
  | intro hbs =>
    rw [List.append_assoc]
    exact noDigitFirst_blanks_append hbs (noDigitFirst_cons.2 hc)

/-! ### How a zone begins -/

/-- A zone begins with a letter or a sign, so with no blank, no digit and no point. -/
theorem ZoneText.head {z : Int} (h : ZoneText cs z) :
    ∃ c tail, cs = c :: tail ∧ isBlank c = false ∧ c.isDigit = false ∧ c ≠ '.' := by
  have hmark : ∀ c ∈ ['U', 'u', 'Z', 'z', '+', '-', '\u2212'],
      isBlank c = false ∧ c.isDigit = false ∧ c ≠ '.' := by
    intro c hc
    have hall : ['U', 'u', 'Z', 'z', '+', '-', '\u2212'].all
        (fun c => !isBlank c && !c.isDigit && c != '.') = true := by decide
    simpa [and_assoc] using List.all_eq_true.1 hall c hc
  cases h with
  | utc hu ht hc => exact ⟨_, _, rfl, hmark _ (by grind)⟩
  | zulu hz => exact ⟨_, _, rfl, hmark _ (by grind)⟩
  | east h => exact ⟨_, _, rfl, hmark _ (by grind)⟩
  | west hsign h => exact ⟨_, _, rfl, hmark _ (by grind)⟩

end CanaryMetrics.Instant
