import CanaryMetrics.Proofs.Calendar.Counting
import CanaryMetrics.Proofs.Instant.Grammar
import CanaryMetrics.Proofs.Instant.RoundTrip
import CanaryMetrics.Proofs.Text.Joined

namespace CanaryMetrics.Instant

open Calendar Text

/-!
# What the text of an instant shows

The text of an instant is a stamp: numbers of a fixed width with marks between.  Here the numbers are
taken from the text alone and compared with the instant, whose days are counted one by one.

* `Stamp`, `StampText` — a stamp, and the text that shows it.
* `StampText.unique` — a text shows one stamp at most.
* `Stamp.Tells` — a stamp tells an instant.
* `DateTimeText` — the form that RFC 3339 gives to a date and time.
* `StampText.dateTimeText_iff` — in which years a stamp has that form.
* `exists_stamp` — the text of an instant shows a stamp that tells it.
* `text_tells` — all this together.
-/

/-! ### Numbers of a fixed width -/

/-- A number that is written with `width` digits. -/
structure FixedNumber (width : Nat) (ds : List Char) (n : Nat) : Prop extends NumberText ds n where
  /-- So many digits there are. -/
  length_eq : ds.length = width

theorem fixedNumber_paddedDigits {width n : Nat} (hwidth : 0 < width) (h : n < 10 ^ width) :
    FixedNumber width (paddedDigits width n) n where
  isDigit := fun _ => isDigit_of_mem_paddedDigits
  ne_nil := paddedDigits_ne_nil width n
  value := ofDigitChars_paddedDigits width n
  length_eq := length_paddedDigits_of_lt hwidth h

/-- Two numbers of the same width end at the same place, whatever follows them. -/
theorem FixedNumber.append_inj {width m n : Nat} {xs ys us vs : List Char} (hx : FixedNumber width xs m)
    (hy : FixedNumber width ys n) (h : xs ++ us = ys ++ vs) : m = n ∧ us = vs := by
  obtain ⟨rfl, hrest⟩ := List.append_inj h (hx.length_eq.trans hy.length_eq.symm)
  exact ⟨hx.value.symm.trans hy.value, hrest⟩

/-! ### Stamps -/

/-- The year of a stamp: four digits, or a sign and at least four digits. -/
inductive StampYear : List Char → Int → Prop
  /-- A year from 0 to 9999. -/
  | plain {ds : List Char} {n : Nat} (hds : FixedNumber 4 ds n) : StampYear ds n
  /-- A later year. -/
  | later {ds : List Char} {n : Nat} (hds : NumberText ds n) (hlength : 4 ≤ ds.length)
    (hn : 9999 < n) : StampYear ('+' :: ds) n
  /-- An earlier year. -/
  | earlier {ds : List Char} {n : Nat} (hds : NumberText ds n) (hlength : 4 ≤ ds.length)
    (hn : 0 < n) : StampYear ('-' :: ds) (-n)

/-- The fraction of a second: nothing, or a point and digits. -/
inductive StampFraction : List Char → List Char → Prop
  /-- No digits, and no point. -/
  | none : StampFraction [] []
  /-- A point and the digits. -/
  | point {ds : List Char} (hds : ∀ c ∈ ds, c.isDigit = true) (hne : ds ≠ []) :
    StampFraction ('.' :: ds) ds

/-- A date and a time of day, with the digits of the fraction of the second. -/
structure Stamp where
  /-- The date. -/
  date : Date
  /-- The hour. -/
  hour : Nat
  /-- The minute. -/
  minute : Nat
  /-- The second. -/
  second : Nat
  /-- The digits after the point; none when there is no point. -/
  fraction : List Char

/-- The text that shows a stamp. -/
inductive StampText : List Char → Stamp → Prop
  /-- Numbers of two digits after the year, with marks between; a fraction; and `Z`. -/
  | intro {year month day hour minute second fraction ds : List Char} {y : Int} {m d h mi s : Nat}
    (hyear : StampYear year y) (hmonth : FixedNumber 2 month m) (hday : FixedNumber 2 day d)
    (hhour : FixedNumber 2 hour h) (hminute : FixedNumber 2 minute mi)
    (hsecond : FixedNumber 2 second s) (hfraction : StampFraction fraction ds) :
    StampText (year ++ '-' :: (month ++ '-' :: (day ++ 'T' :: (hour ++ ':' :: (minute ++ ':' ::
      (second ++ (fraction ++ ['Z']))))))) ⟨⟨y, m, d⟩, h, mi, s, ds⟩

/-- Two runs of digits end at the same place when a hyphen follows both. -/
theorem eq_of_digits_hyphen {xs ys us vs : List Char} (hx : ∀ c ∈ xs, c.isDigit = true)
    (hy : ∀ c ∈ ys, c.isDigit = true) (h : xs ++ '-' :: us = ys ++ '-' :: vs) : xs = ys ∧ us = vs :=
  append_cons_inj (fun hmem => absurd rfl (ne_of_isDigit (hx _ hmem) (by decide)))
    (fun hmem => absurd rfl (ne_of_isDigit (hy _ hmem) (by decide))) h

/-- The first character of a run of digits is no sign. -/
theorem digits_ne_sign_cons {sign : Char} (hsign : sign.isDigit = false) {ds us vs : List Char}
    (hds : ∀ c ∈ ds, c.isDigit = true) (hne : ds ≠ []) : ds ++ us ≠ sign :: vs := by
  intro h
  obtain ⟨d, ds, rfl⟩ := List.exists_cons_of_ne_nil hne
  exact ne_of_isDigit (hds d List.mem_cons_self) hsign (List.cons.inj h).1

/-- The year of a stamp ends at the hyphen that follows it. -/
theorem StampYear.append_inj {xs ys us vs : List Char} {y z : Int} (hx : StampYear xs y)
    (hy : StampYear ys z) (h : xs ++ '-' :: us = ys ++ '-' :: vs) : y = z ∧ us = vs := by
  -- the first character shows which of the three forms it is
  cases hx with
  | plain hds =>
    cases hy with
    | plain hds' =>
      obtain ⟨rfl, hrest⟩ := eq_of_digits_hyphen hds.isDigit hds'.isDigit h
      exact ⟨by rw [← hds.value, ← hds'.value], hrest⟩
    | later hds' | earlier hds' =>
      exact absurd h (digits_ne_sign_cons (by decide) hds.isDigit hds.ne_nil)
  | later hds =>
    cases hy with
    | plain hds' => exact absurd h.symm (digits_ne_sign_cons (by decide) hds'.isDigit hds'.ne_nil)
    | later hds' =>
      obtain ⟨rfl, hrest⟩ := eq_of_digits_hyphen hds.isDigit hds'.isDigit (List.cons.inj h).2
      exact ⟨by rw [← hds.value, ← hds'.value], hrest⟩
    | earlier => exact absurd (List.cons.inj h).1 (by decide)
  | earlier hds =>
    cases hy with
    | plain hds' => exact absurd h.symm (digits_ne_sign_cons (by decide) hds'.isDigit hds'.ne_nil)
    | later => exact absurd (List.cons.inj h).1 (by decide)
    | earlier hds' =>
      obtain ⟨rfl, hrest⟩ := eq_of_digits_hyphen hds.isDigit hds'.isDigit (List.cons.inj h).2
      exact ⟨by rw [← hds.value, ← hds'.value], hrest⟩

/-- The text of a fraction shows its digits. -/
theorem StampFraction.unique {cs ds es : List Char} (hd : StampFraction cs ds)
    (he : StampFraction cs es) : ds = es := by
  cases hd with
  | none =>
    cases he
    rfl
  | point =>
    cases he
    rfl

/-- A text shows one stamp at most. -/
theorem StampText.unique {cs : List Char} {p q : Stamp} (hp : StampText cs p) (hq : StampText cs q) :
    p = q := by
  generalize hcs : cs = cs' at hq
  cases hp with
  | intro hyear hmonth hday hhour hminute hsecond hfraction =>
    cases hq with
    | intro hyear' hmonth' hday' hhour' hminute' hsecond' hfraction' =>
      -- the parts are compared from left to right, and each shows where the next one begins
      obtain ⟨rfl, h⟩ := hyear.append_inj hyear' hcs
      obtain ⟨rfl, h⟩ := hmonth.append_inj hmonth' h
      obtain ⟨rfl, h⟩ := hday.append_inj hday' (List.cons.inj h).2
      obtain ⟨rfl, h⟩ := hhour.append_inj hhour' (List.cons.inj h).2
      obtain ⟨rfl, h⟩ := hminute.append_inj hminute' (List.cons.inj h).2
      obtain ⟨rfl, h⟩ := hsecond.append_inj hsecond' (List.cons.inj h).2
      rw [List.append_cancel_right h] at hfraction
      rw [hfraction.unique hfraction']

/-! ### What a stamp tells -/

/-- Digits after a point are exact for a number of nanoseconds, as multiples of ten if there are fewer
    than nine, and no fewer of them are among the numbers of digits that there can be. -/
structure FewestDigits (ds : List Char) (nanos : Nat) : Prop where
  /-- So many digits there can be. -/
  length_mem : ds.length ∈ [0, 3, 6, 9]
  /-- The digits are exact. -/
  exact : Nat.ofDigitChars 10 ds 0 * 10 ^ (9 - ds.length) = nanos
  /-- Fewer digits are not. -/
  fewest : ∀ width ∈ [0, 3, 6, 9], ∀ n, n * 10 ^ (9 - width) = nanos → ds.length ≤ width

/-- A stamp tells an instant. -/
structure Stamp.Tells (p : Stamp) (t : Instant) : Prop where
  /-- The date exists. -/
  dateExists : 1 ≤ p.date.month ∧ p.date.month ≤ 12 ∧ 1 ≤ p.date.day ∧
    p.date.day ≤ monthLength p.date.year p.date.month
  /-- There are 24 hours. -/
  hour_le : p.hour ≤ 23
  /-- There are 60 minutes in each. -/
  minute_le : p.minute ≤ 59
  /-- There are 60 seconds in each, and perhaps a leap second. -/
  second_le : p.second ≤ 60
  /-- The second 60 is a leap second. -/
  second_eq_sixty_iff : p.second = 60 ↔ nanosPerSecond ≤ t.nanos
  /-- Days, hours, minutes and seconds make up the seconds of the instant. -/
  seconds_eq : p.date.countedDays * 86400 + 3600 * p.hour + 60 * p.minute + min p.second 59 = t.seconds
  /-- The fraction has as many digits as it needs. -/
  fraction : FewestDigits p.fraction (t.nanos % nanosPerSecond)

/-! ### The form of RFC 3339 -/

/-- An offset from UTC: `Z`, or a sign with hours and minutes. -/
inductive OffsetForm : List Char → Prop
  /-- UTC, as a capital letter or not. -/
  | zulu {z : Char} (hz : z ∈ ['Z', 'z']) : OffsetForm [z]
  /-- A sign, hours and minutes. -/
  | signed {sign : Char} {hour minute : List Char} {h m : Nat} (hsign : sign ∈ ['+', '-'])
    (hhour : FixedNumber 2 hour h) (hh : h ≤ 23) (hminute : FixedNumber 2 minute m) (hm : m ≤ 59) :
    OffsetForm (sign :: (hour ++ ':' :: minute))

/-- The form that RFC 3339 gives to a date and time: a year of four digits without a sign, all other
    numbers of two digits and within their range, and at least one digit in a fraction. -/
inductive DateTimeText : List Char → Prop
  /-- Date, `T` as a capital letter or not, time and offset. -/
  | intro {year month day hour minute second fraction ds offset : List Char} {delimiter : Char}
    {y m d h mi s : Nat} (hyear : FixedNumber 4 year y)
    (hmonth : FixedNumber 2 month m) (hm : 1 ≤ m ∧ m ≤ 12)
    (hday : FixedNumber 2 day d) (hd : 1 ≤ d ∧ d ≤ monthLength y m)
    (hdelimiter : delimiter ∈ ['T', 't'])
    (hhour : FixedNumber 2 hour h) (hh : h ≤ 23) (hminute : FixedNumber 2 minute mi) (hmi : mi ≤ 59)
    (hsecond : FixedNumber 2 second s) (hs : s ≤ 60) (hfraction : StampFraction fraction ds)
    (hoffset : OffsetForm offset) :
    DateTimeText (year ++ '-' :: (month ++ '-' :: (day ++ delimiter :: (hour ++ ':' :: (minute ++ ':' ::
      (second ++ (fraction ++ offset)))))))

/-- A stamp has that form exactly in the years without a sign. -/
theorem StampText.dateTimeText_iff {cs : List Char} {p : Stamp} {t : Instant} (hp : StampText cs p)
    (ht : p.Tells t) : DateTimeText cs ↔ 0 ≤ p.date.year ∧ p.date.year ≤ 9999 := by
  obtain ⟨hyear, hmonth, hday, hhour, hminute, hsecond, hfraction⟩ := hp
  obtain ⟨hm₁, hm₂, hd₁, hd₂⟩ := ht.dateExists
  cases hyear with
  | plain hds =>
    have hlt := ofDigitChars_lt hds.isDigit
    rw [hds.value, hds.length_eq] at hlt
    refine iff_of_true ?_ (by simp only; omega)
    exact .intro hds hmonth ⟨hm₁, hm₂⟩ hday ⟨hd₁, hd₂⟩ (by decide) hhour ht.hour_le hminute ht.minute_le
      hsecond ht.second_le hfraction (.zulu (by decide))
  | later hds hlength hn | earlier hds hlength hn =>
    -- the form begins with a digit, and so does not the stamp
    refine iff_of_false (fun hform => ?_) (by simp only; omega)
    generalize hcs : _ :: _ ++ _ = cs at hform
    obtain ⟨hds', -⟩ := hform
    exact digits_ne_sign_cons (by decide) hds'.isDigit hds'.ne_nil hcs.symm

/-! ### The stamp of an instant -/

/-- A width is what a fraction needs when it is exact and none of the smaller ones is. -/
theorem exists_fewestDigits_of_mod_eq_zero {width nanos : Nat} (hwidth : width ∈ [3, 6, 9])
    (h : nanos < 10 ^ 9) (hexact : nanos % 10 ^ (9 - width) = 0)
    (hfewest : ∀ w ∈ [0, 3, 6, 9], w < width → nanos % 10 ^ (9 - w) ≠ 0) :
    ∃ ds, StampFraction ("." ++ padded width (nanos / 10 ^ (9 - width))).toList ds ∧
      FewestDigits ds nanos := by
  have hbounds : 3 ≤ width ∧ width ≤ 9 := by
    simp only [List.mem_cons, List.not_mem_nil, or_false] at hwidth
    omega
  have hlt : nanos / 10 ^ (9 - width) < 10 ^ width := by
    apply Nat.div_lt_of_lt_mul
    rwa [← Nat.pow_add, Nat.sub_add_cancel hbounds.2]
  have hlength : (paddedDigits width (nanos / 10 ^ (9 - width))).length = width :=
    length_paddedDigits_of_lt (by omega) hlt
  refine ⟨paddedDigits width (nanos / 10 ^ (9 - width)), ?_, ?_, ?_, fun w hw n hn => ?_⟩
  · rw [String.toList_append, toList_padded]
    exact .point (fun _ => isDigit_of_mem_paddedDigits) (paddedDigits_ne_nil width _)
  · rw [hlength]
    exact List.mem_cons_of_mem 0 hwidth
  · rw [hlength, ofDigitChars_paddedDigits]
    exact Nat.div_mul_cancel (Nat.dvd_of_mod_eq_zero hexact)
  · rw [hlength]
    -- with fewer digits the nanoseconds would be a multiple of a power of ten that they are not
    rcases Nat.lt_or_ge w width with hlt | hle
    · exact absurd (by rw [← hn, Nat.mul_mod_left]) (hfewest w hw hlt)
    · exact hle

/-- A fraction shows as many digits as it needs. -/
theorem exists_fewestDigits {nanos : Nat} (h : nanos < nanosPerSecond) :
    ∃ ds, StampFraction (fractionText nanos).toList ds ∧ FewestDigits ds nanos := by
  have hone : nanos % 10 ^ (9 - 0) = nanos := Nat.mod_eq_of_lt h
  unfold fractionText
  split
  · rename_i hzero
    subst hzero
    exact ⟨[], .none, by decide, rfl, fun _ _ _ _ => Nat.zero_le _⟩
  · -- from the smallest width on, the first that is exact is taken
    rename_i hzero
    split
    · rename_i hmillis
      refine exists_fewestDigits_of_mod_eq_zero (by decide) h hmillis fun w hw hlt => ?_
      obtain rfl : w = 0 := by simp at hw; omega
      rwa [hone]
    · rename_i hmillis
      split
      · rename_i hmicros
        refine exists_fewestDigits_of_mod_eq_zero (by decide) h hmicros fun w hw hlt => ?_
        obtain rfl | rfl : w = 0 ∨ w = 3 := by simp at hw; omega
        · rwa [hone]
        · exact hmillis
      · rename_i hmicros
        have hnanos : nanos % 10 ^ (9 - 9) = 0 := Nat.mod_one nanos
        have hdiv : nanos / 10 ^ (9 - 9) = nanos := Nat.div_one nanos
        have hnine := exists_fewestDigits_of_mod_eq_zero (by decide) h hnanos fun w hw hlt => ?_
        · rwa [hdiv] at hnine
        · obtain rfl | rfl | rfl : w = 0 ∨ w = 3 ∨ w = 6 := by simp at hw; omega
          · rwa [hone]
          · exact hmillis
          · exact hmicros

/-- The year of a date is shown by its text. -/
theorem stampYear_yearText {year : Int} : StampYear (yearText year).toList year := by
  have hds : NumberText (paddedDigits 4 year.natAbs) year.natAbs :=
    ⟨fun _ => isDigit_of_mem_paddedDigits, paddedDigits_ne_nil 4 _, ofDigitChars_paddedDigits 4 _⟩
  -- four digits at least, by filling up with zeros
  have hlength : 4 ≤ (paddedDigits 4 year.natAbs).length := by
    rw [length_paddedDigits]
    exact Nat.le_max_left ..
  rcases Int.lt_or_le year 0 with hneg | hpos
  · have hyear := StampYear.earlier hds hlength (by omega)
    rw [toList_yearText_of_neg hneg]
    rwa [show -(year.natAbs : Int) = year by omega] at hyear
  · have hvalue : (year.natAbs : Int) = year := by omega
    rcases Int.lt_or_le 9999 year with hlong | hshort
    · have hyear := StampYear.later hds hlength (by omega)
      rw [toList_yearText_of_long hlong]
      rwa [hvalue] at hyear
    · have hyear := StampYear.plain
        (fixedNumber_paddedDigits (show 0 < 4 by decide) (show year.natAbs < 10 ^ 4 by omega))
      rw [toList_yearText_of_short hpos hshort]
      rwa [hvalue] at hyear

/-- **What the text of an instant shows is the instant.** -/
theorem exists_stamp (t : Instant) : ∃ p, StampText t.text.toList p ∧ p.Tells t := by
  obtain ⟨ds, hds, hfewest⟩ := exists_fewestDigits t.fraction_lt
  have htwo : ∀ {n : Nat}, n < 100 → FixedNumber 2 (paddedDigits 2 n) n :=
    fun hn => fixedNumber_paddedDigits (by decide) hn
  obtain ⟨hm₁, hm₂, hd₁, hd₂⟩ := t.exists_date
  have hmonthLength := monthLength_le t.date.year t.date.month
  have hhour := t.hour_le
  have hminute := t.minute_le
  have hsecond := t.second_le
  refine ⟨⟨t.date, t.hour, t.minute, t.second, ds⟩, ?_, ?_⟩
  · have htext : t.text.toList = (yearText t.date.year).toList ++ '-' :: (paddedDigits 2 t.date.month ++
        '-' :: (paddedDigits 2 t.date.day ++ 'T' :: (paddedDigits 2 t.hour ++ ':' ::
          (paddedDigits 2 t.minute ++ ':' :: (paddedDigits 2 t.second ++
            ((fractionText t.fraction).toList ++ ['Z'])))))) := by
      simp [text, dateText]
    rw [htext]
    exact .intro stampYear_yearText (htwo (by omega)) (htwo (by omega)) (htwo (by omega))
      (htwo (by omega)) (htwo (by omega)) hds
  · -- the day number of the date is the count of days by years and months
    have hseconds := t.localSeconds_date_timeOfDay
    refine ⟨⟨hm₁, hm₂, hd₁, hd₂⟩, hhour, hminute, hsecond, ?_, ?_, hfewest⟩
    · simp [second_eq_sixty_iff, inLeapSecond]
    · rw [localSeconds, ← Date.countedDays_eq_dayNumber hm₁] at hseconds
      simp only [timeOfDay] at hseconds ⊢
      omega

/-- **The text of an instant is a stamp that tells it.**

    * The text shows one stamp: a date that exists and a time of day which, counted in days from
      1970-01-01 and in seconds, make up the seconds of the instant, a second 60 standing for the leap
      second after 59; and the nanoseconds with as few digits as there can be.
    * The text has the form of RFC 3339 exactly in the years from 0 to 9999. -/
theorem text_tells (t : Instant) :
    ∃ p, StampText t.text.toList p ∧ (∀ q, StampText t.text.toList q → q = p) ∧ p.Tells t ∧
      (DateTimeText t.text.toList ↔ 0 ≤ p.date.year ∧ p.date.year ≤ 9999) := by
  obtain ⟨p, htext, htells⟩ := t.exists_stamp
  exact ⟨p, htext, fun q hq => hq.unique htext, htells, htext.dateTimeText_iff htells⟩

end CanaryMetrics.Instant
