import CanaryMetrics.Instant.Reader
import CanaryMetrics.Instant.Writer
import CanaryMetrics.Proofs.Calendar.DayNumber
import CanaryMetrics.Proofs.Except
import CanaryMetrics.Proofs.Text.DigitRun

namespace CanaryMetrics.Instant

open Calendar Text

/-!
# The text of an instant spells that instant

The reader accepts far more spellings than the writer makes.  One lemma for each part of the text
says that the reader takes off what the writer wrote for the part, whatever follows it.

* `readDate_dateText`, `readTimeOfDay_timeChars`, `readParts_text` — the parts of the text.
* `ofLocal_parts` — the parts put together again.
* `ofText_text` — hence reading undoes writing, and `text_injective` — different instants have
  different texts.
-/

/-! ### Numbers -/

/-- A run of digits is taken off when it is as long as it may be, or nothing prolongs it. -/
theorem digits_append {limit : Nat} {ds rest : List Char} (hds : ∀ c ∈ ds, c.isDigit = true)
    (hne : ds ≠ []) (hlimit : ds.length ≤ limit)
    (hstop : ds.length = limit ∨ NoDigitFirst rest) :
    digits limit (ds ++ rest) = .ok (ds, rest) := by
  have htake : ((ds ++ rest).takeWhile Char.isDigit).take limit = ds := by
    rcases hstop with hlength | hrest
    · rw [List.takeWhile_append_of_pos hds, ← hlength, List.take_left]
    · rw [takeWhile_isDigit_append hds hrest, List.take_of_length_le hlimit]
  simp only [digits, htake, if_neg hne, List.drop_left]

/-- A number of two digits is taken off when it is in range. -/
theorem number_padded {low high n : Nat} (hlow : low ≤ n) (hhigh : n ≤ high) (hn : n < 100)
    (rest : List Char) : number 2 low high (paddedDigits 2 n ++ rest) = .ok (n, rest) := by
  have hds : ∀ c ∈ paddedDigits 2 n, c.isDigit = true := fun _ => isDigit_of_mem_paddedDigits
  have hne := paddedDigits_ne_nil 2 n
  have hlength : (paddedDigits 2 n).length = 2 := length_paddedDigits_of_lt (by omega) (by omega)
  rw [number, trimStart_digits_append hds hne, digits_append hds hne (by omega) (.inl hlength),
    ok_bind]
  simp only [ofDigitChars_paddedDigits, if_pos (And.intro hlow hhigh)]

/-- A character that is not blank is taken off where it is expected. -/
theorem expect_cons {c : Char} (hc : isBlank c = false) (rest : List Char) :
    expect c (trimStart (c :: rest)) = .ok rest := by
  rw [trimStart_cons_of_not_isBlank hc]
  exact if_pos rfl

/-! ### The date -/

/-- A year before year 0 has a minus sign. -/
theorem toList_yearText_of_neg {year : Int} (h : year < 0) :
    (yearText year).toList = '-' :: paddedDigits 4 year.natAbs := by
  simp [yearText, h]

/-- A year after year 9999 has a plus sign. -/
theorem toList_yearText_of_long {year : Int} (h : 9999 < year) :
    (yearText year).toList = '+' :: paddedDigits 4 year.natAbs := by
  have hpos : ¬ year < 0 := by omega
  simp [yearText, hpos, h]

/-- Any other year has no sign. -/
theorem toList_yearText_of_short {year : Int} (h₀ : 0 ≤ year) (h₁ : year ≤ 9999) :
    (yearText year).toList = paddedDigits 4 year.natAbs := by
  have hpos : ¬ year < 0 := by omega
  have hshort : ¬ 9999 < year := by omega
  simp [yearText, hpos, hshort]

/-- The text of a year does not start with a blank. -/
theorem trimStart_yearText (year : Int) (rest : List Char) :
    trimStart ((yearText year).toList ++ rest) = (yearText year).toList ++ rest := by
  rcases Int.lt_or_le year 0 with hneg | hpos
  · rw [toList_yearText_of_neg hneg]
    exact trimStart_cons_of_not_isBlank (c := '-') (by decide) _
  · rcases Int.lt_or_le 9999 year with hlong | hshort
    · rw [toList_yearText_of_long hlong]
      exact trimStart_cons_of_not_isBlank (c := '+') (by decide) _
    · rw [toList_yearText_of_short hpos hshort]
      exact trimStart_digits_append (fun _ => isDigit_of_mem_paddedDigits)
        (paddedDigits_ne_nil _ _) _

/-- Where digits come first there is no sign to a year, and it has at most four of them. -/
theorem readYearDigits_digits_append {ds rest : List Char} (hds : ∀ c ∈ ds, c.isDigit = true)
    (hne : ds ≠ []) (hlimit : ds.length ≤ 4) (hstop : ds.length = 4 ∨ NoDigitFirst rest) :
    readYearDigits (ds ++ rest) = .ok ((Nat.ofDigitChars 10 ds 0 : Int), rest) := by
  have hread : digits 4 (ds ++ rest) = .ok (ds, rest) := digits_append hds hne hlimit hstop
  unfold readYearDigits
  -- a sign in front would be one of the digits
  split
  · rename_i heq
    have hsign := hds '-' (by cases ds <;> simp_all)
    cases hsign
  · rename_i heq
    have hsign := hds '+' (by cases ds <;> simp_all)
    cases hsign
  · rw [hread]
    rfl

/-- The sign and the digits of a year are taken off when a hyphen follows. -/
theorem readYearDigits_yearText (year : Int) (rest : List Char) :
    readYearDigits ((yearText year).toList ++ '-' :: rest) = .ok (year, '-' :: rest) := by
  have hds : ∀ c ∈ paddedDigits 4 year.natAbs, c.isDigit = true :=
    fun _ => isDigit_of_mem_paddedDigits
  have hne := paddedDigits_ne_nil 4 year.natAbs
  have hstop : NoDigitFirst ('-' :: rest) := noDigitFirst_cons.2 (by decide)
  rcases Int.lt_or_le year 0 with hneg | hpos
  · -- after a sign any number of digits is taken, so the hyphen has to end them
    rw [toList_yearText_of_neg hneg, List.cons_append, readYearDigits,
      digits_append hds hne (by simp) (.inr hstop), ok_bind]
    simp only [ofDigitChars_paddedDigits]
    exact congrArg Except.ok (Prod.ext (by omega) rfl)
  · have hvalue : (year.natAbs : Int) = year := by omega
    rcases Int.lt_or_le 9999 year with hlong | hshort
    · rw [toList_yearText_of_long hlong, List.cons_append, readYearDigits,
        digits_append hds hne (by simp) (.inr hstop), ok_bind]
      simp only [ofDigitChars_paddedDigits, hvalue]
      rfl
    · -- without a sign there are four digits, and no more are taken
      have hlength : (paddedDigits 4 year.natAbs).length = 4 :=
        length_paddedDigits_of_lt (by omega) (by omega)
      rw [toList_yearText_of_short hpos hshort,
        readYearDigits_digits_append hds hne (by omega) (.inl hlength), ofDigitChars_paddedDigits,
        hvalue]

/-- A year within 32 bits is taken off when a hyphen follows. -/
theorem readYear_yearText {year : Int} (hlow : -2147483648 ≤ year) (hhigh : year ≤ 2147483647)
    (rest : List Char) :
    readYear ((yearText year).toList ++ '-' :: rest) = .ok (year, '-' :: rest) := by
  rw [readYear, trimStart_yearText, readYearDigits_yearText, ok_bind]
  simp only [if_pos (And.intro hlow hhigh)]

/-- No month is longer than 31 days. -/
theorem monthLength_le (year : Int) (month : Nat) : monthLength year month ≤ 31 := by
  unfold monthLength
  split
  · split <;> omega
  · split <;> omega

/-- A date that exists is taken off. -/
theorem readDate_dateText {d : Date} (hd : d.Exists) (hlow : -2147483648 ≤ d.year)
    (hhigh : d.year ≤ 2147483647) (rest : List Char) :
    readDate ((dateText d).toList ++ rest) = .ok (d, rest) := by
  obtain ⟨hm₁, hm₂, hd₁, hd₂⟩ := hd
  have hlength := monthLength_le d.year d.month
  have htext : (dateText d).toList ++ rest
      = (yearText d.year).toList ++ '-' :: (paddedDigits 2 d.month ++ '-' ::
          (paddedDigits 2 d.day ++ rest)) := by
    simp [dateText]
  rw [htext, readDate, readYear_yearText hlow hhigh, ok_bind]
  simp only
  rw [expect_cons (by decide), ok_bind, number_padded hm₁ hm₂ (by omega), ok_bind]
  simp only
  rw [expect_cons (by decide), ok_bind, number_padded hd₁ (by omega) (by omega), ok_bind]
  rfl

/-! ### The time of day -/

/-- Up to nine digits after a point, filled up with zeros, are a number of nanoseconds. -/
theorem nanosOfDigits_paddedDigits {width n : Nat} (hwidth : 0 < width) (hwidth' : width ≤ 9)
    (hn : n < 10 ^ width) : nanosOfDigits (paddedDigits width n) = 10 ^ (9 - width) * n := by
  have hlength := length_paddedDigits_of_lt hwidth hn
  rw [nanosOfDigits, List.take_of_length_le (by omega), List.rightpad, hlength,
    Nat.ofDigitChars_append, ofDigitChars_paddedDigits, Nat.ofDigitChars_replicate_zero]

/-- A point and up to nine digits are taken off when nothing prolongs the digits. -/
theorem readFraction_point {width n : Nat} (hwidth : 0 < width) (hwidth' : width ≤ 9)
    (hn : n < 10 ^ width) {rest : List Char} (hrest : NoDigitFirst rest) :
    readFraction ('.' :: (paddedDigits width n ++ rest)) = .ok (10 ^ (9 - width) * n, rest) := by
  rw [readFraction, digits_append (fun _ => isDigit_of_mem_paddedDigits)
    (paddedDigits_ne_nil width n) (by simp) (.inr hrest), ok_bind]
  simp only [nanosOfDigits_paddedDigits hwidth hwidth' hn]
  rfl

/-- The fraction of a second is taken off, none included, when the zone follows. -/
theorem readFraction_fractionText {nanos : Nat} (h : nanos < nanosPerSecond) (rest : List Char) :
    readFraction ((fractionText nanos).toList ++ 'Z' :: rest) = .ok (nanos, 'Z' :: rest) := by
  have hstop : NoDigitFirst ('Z' :: rest) := noDigitFirst_cons.2 (by decide)
  unfold nanosPerSecond at h
  unfold fractionText
  split
  · rename_i hzero
    subst hzero
    rfl
  · split
    · rename_i hmillis
      have hlt : nanos / 1000000 < 10 ^ 3 := by omega
      -- dividing loses nothing here, so the digits and the zeros behind them give the nanoseconds
      have hread := readFraction_point (by omega) (by omega) hlt hstop
      rw [String.toList_append, toList_padded]
      exact hread.trans (congrArg Except.ok (Prod.ext (by omega) rfl))
    · split
      · rename_i hmicros
        have hlt : nanos / 1000 < 10 ^ 6 := by omega
        have hread := readFraction_point (by omega) (by omega) hlt hstop
        rw [String.toList_append, toList_padded]
        exact hread.trans (congrArg Except.ok (Prod.ext (by omega) rfl))
      · have hlt : nanos < 10 ^ 9 := by omega
        have hread := readFraction_point (by omega) (by omega) hlt hstop
        rw [String.toList_append, toList_padded]
        exact hread.trans (congrArg Except.ok (Prod.ext (by omega) rfl))

/-- The text of a time of day, as an instant has it. -/
def timeChars (time : TimeOfDay) : List Char :=
  paddedDigits 2 time.hour ++ ':' :: (paddedDigits 2 time.minute ++ ':' ::
    (paddedDigits 2 time.second ++ (fractionText time.fraction).toList))

/-- A time of day is taken off when the zone follows. -/
theorem readTimeOfDay_timeChars {time : TimeOfDay} (hhour : time.hour ≤ 23)
    (hminute : time.minute ≤ 59) (hsecond : time.second ≤ 60)
    (hfraction : time.fraction < nanosPerSecond) (rest : List Char) :
    readTimeOfDay (timeChars time ++ 'Z' :: rest) = .ok (time, 'Z' :: rest) := by
  simp only [timeChars, List.append_assoc, List.cons_append]
  rw [readTimeOfDay, number_padded (by omega) hhour (by omega), ok_bind]
  simp only
  rw [expect_cons (by decide), ok_bind, number_padded (by omega) hminute (by omega), ok_bind]
  simp only
  rw [expect_cons (by decide), ok_bind, number_padded (by omega) hsecond (by omega), ok_bind]
  simp only
  rw [readFraction_fractionText hfraction, ok_bind]
  rfl

/-! ### The parts of an instant -/

/-- The time of day of an instant. -/
def timeOfDay (t : Instant) : TimeOfDay :=
  ⟨t.hour, t.minute, t.second, t.fraction⟩

/-- An instant's text is its date, its time of day and the zone. -/
theorem toList_text (t : Instant) :
    t.text.toList = (dateText t.date).toList ++ 'T' :: (timeChars t.timeOfDay ++ ['Z']) := by
  simp [text, timeChars, timeOfDay]

/-- A day has 86400 seconds. -/
theorem secondOfDay_lt (t : Instant) : t.secondOfDay < 86400 := by
  unfold secondOfDay
  omega

theorem hour_le (t : Instant) : t.hour ≤ 23 := by
  have := t.secondOfDay_lt
  unfold hour
  omega

theorem minute_le (t : Instant) : t.minute ≤ 59 := by
  unfold minute
  omega

theorem second_le (t : Instant) : t.second ≤ 60 := by
  unfold second
  split <;> omega

theorem fraction_lt (t : Instant) : t.fraction < nanosPerSecond :=
  Nat.mod_lt _ (by decide)

/-- The date of an instant exists. -/
theorem exists_date (t : Instant) : t.date.Exists :=
  Date.exists_ofDayNumber _

/-- The calendar covers the days between its first and its last second. -/
theorem coversYear_ofDayNumber_iff {seconds : Int} :
    coversYear (Date.ofDayNumber (seconds / 86400)).year ↔
      firstSecond ≤ seconds ∧ seconds ≤ lastSecond := by
  have hle := daysBeforeYear_yearOfDay_le (seconds / 86400)
  have hlt := lt_daysBeforeYear_succ_yearOfDay (seconds / 86400)
  have hfirst : daysBeforeYear (-262143) * 86400 = firstSecond := by decide
  have hlast : daysBeforeYear 262143 * 86400 = lastSecond + 1 := by decide
  show -262143 ≤ Date.yearOfDay (seconds / 86400) ∧ Date.yearOfDay (seconds / 86400) ≤ 262142 ↔ _
  constructor
  · rintro ⟨h₁, h₂⟩
    have := daysBeforeYear_mono h₁
    have := daysBeforeYear_mono (show Date.yearOfDay (seconds / 86400) + 1 ≤ 262143 by omega)
    omega
  · -- a year beyond the range would begin after the last day or end before the first one
    rintro ⟨h₁, h₂⟩
    constructor
    · rcases Int.lt_or_le (Date.yearOfDay (seconds / 86400)) (-262143) with h | h
      · have := daysBeforeYear_mono (show Date.yearOfDay (seconds / 86400) + 1 ≤ -262143 by omega)
        omega
      · exact h
    · rcases Int.lt_or_le 262142 (Date.yearOfDay (seconds / 86400)) with h | h
      · have := daysBeforeYear_mono (show 262143 ≤ Date.yearOfDay (seconds / 86400) by omega)
        omega
      · exact h

/-- The calendar covers the year of every instant. -/
theorem coversYear_date (t : Instant) : coversYear t.date.year :=
  coversYear_ofDayNumber_iff.2 ⟨t.first_le, t.le_last⟩

/-- The text of an instant is taken apart into its date, its time of day and UTC. -/
theorem readParts_text (t : Instant) : readParts t.text.toList = .ok (t.date, t.timeOfDay, 0) := by
  have hyear := t.coversYear_date
  unfold coversYear at hyear
  have hdelimiter : ∀ rest, readDelimiter ('T' :: rest) = .ok rest := fun _ => rfl
  -- the parts are taken off in the order in which they stand
  rw [toList_text, readParts, readDate_dateText t.exists_date (by omega) (by omega), ok_bind]
  simp only
  rw [hdelimiter, ok_bind, readTimeOfDay_timeChars t.hour_le t.minute_le t.second_le t.fraction_lt,
    ok_bind]
  rfl

/-! ### The instant of the parts -/

/-- The second 60 is a leap second's. -/
theorem second_eq_sixty_iff (t : Instant) : t.second = 60 ↔ t.inLeapSecond = true := by
  unfold second
  constructor
  · intro h
    split at h
    · assumption
    · -- a second of the day is counted from 0 to 59
      omega
  · intro h
    have := seconds_mod_of_inLeapSecond h
    rw [if_pos h]
    unfold secondOfDay
    omega

/-- The date and the time of day of an instant count its seconds. -/
theorem localSeconds_date_timeOfDay (t : Instant) :
    localSeconds t.date t.timeOfDay = t.seconds := by
  have hclock : t.hour * 3600 + t.minute * 60 + min t.second 59 = t.secondOfDay := by
    have hday := t.secondOfDay_lt
    unfold hour minute second
    split
    · -- the second 60 is counted as the second 59 that it follows
      rename_i hleap
      have := seconds_mod_of_inLeapSecond hleap
      unfold secondOfDay at *
      omega
    · omega
  show t.date.dayNumber * 86400 + (t.hour * 3600 + t.minute * 60 + min t.second 59 : Nat)
    = t.seconds
  rw [hclock, date, Date.dayNumber_ofDayNumber, secondOfDay]
  omega

/-- A leap second counts for the nanoseconds that the fraction leaves out. -/
theorem fraction_add_leap (t : Instant) :
    t.fraction + (if t.second = 60 then nanosPerSecond else 0) = t.nanos := by
  have hlt := t.nanos_lt
  have hbound : nanosBound t.seconds ≤ 2 * nanosPerSecond := by
    unfold nanosBound nanosPerSecond
    split <;> omega
  simp only [second_eq_sixty_iff, inLeapSecond, decide_eq_true_eq, fraction]
  unfold nanosPerSecond at *
  split <;> omega

/-- The parts of an instant, put together, are that instant. -/
theorem ofLocal_parts (t : Instant) : ofLocal t.date t.timeOfDay 0 = .ok t := by
  have hparts : (0 : Int).natAbs < 1440 ∧ t.date.Exists ∧ coversYear t.date.year :=
    ⟨by decide, t.exists_date, t.coversYear_date⟩
  have hseconds : localSeconds t.date t.timeOfDay - 0 * 60 = t.seconds := by
    rw [localSeconds_date_timeOfDay]
    omega
  have hnanos : t.timeOfDay.fraction + (if t.timeOfDay.second = 60 then nanosPerSecond else 0)
      = t.nanos := t.fraction_add_leap
  rw [ofLocal, if_pos hparts, hseconds, hnanos, ofParts?_seconds_nanos]

/-- **Reading undoes writing.**  The text of an instant spells that instant. -/
theorem ofText_text (t : Instant) : ofText t.text = .ok t := by
  rw [ofText, readParts_text, ok_bind]
  exact ofLocal_parts t

/-- Different instants have different texts. -/
theorem text_injective {t u : Instant} (h : t.text = u.text) : t = u := by
  have hread : (Except.ok t : Except ReadError Instant) = .ok u := by
    rw [← ofText_text t, h, ofText_text u]
  exact Except.ok.inj hread

/-! ### The characters of the text -/

/-- The characters of an instant's text are digits and a few marks. -/
def IsTextChar (c : Char) : Prop :=
  c.isDigit = true ∨ c ∈ ['+', '-', ':', '.', 'T', 'Z']

theorem isTextChar_of_mem_paddedDigits {width n : Nat} {c : Char} (h : c ∈ paddedDigits width n) :
    IsTextChar c :=
  .inl (isDigit_of_mem_paddedDigits h)

theorem isTextChar_of_mem_yearText {year : Int} {c : Char} (h : c ∈ (yearText year).toList) :
    IsTextChar c := by
  -- a year before 0, one of more than four digits, and any other
  rcases Int.lt_or_le year 0 with hneg | hpos
  · rw [toList_yearText_of_neg hneg] at h
    rcases List.mem_cons.1 h with rfl | h
    · exact .inr (by decide)
    · exact isTextChar_of_mem_paddedDigits h
  · rcases Int.lt_or_le 9999 year with hlong | hshort
    · rw [toList_yearText_of_long hlong] at h
      rcases List.mem_cons.1 h with rfl | h
      · exact .inr (by decide)
      · exact isTextChar_of_mem_paddedDigits h
    · rw [toList_yearText_of_short hpos hshort] at h
      exact isTextChar_of_mem_paddedDigits h

theorem isTextChar_of_mem_fractionText {nanos : Nat} {c : Char}
    (h : c ∈ (fractionText nanos).toList) :
    IsTextChar c := by
  have hpoint : ∀ width n, c ∈ ("." ++ padded width n).toList → IsTextChar c := by
    intro width n hc
    rw [String.toList_append, toList_padded] at hc
    rcases List.mem_cons.1 hc with rfl | hc
    · exact .inr (by decide)
    · exact isTextChar_of_mem_paddedDigits hc
  unfold fractionText at h
  split at h
  · cases h
  · split at h
    · exact hpoint _ _ h
    · split at h
      · exact hpoint _ _ h
      · exact hpoint _ _ h

/-- The text of an instant consists of digits and a few marks. -/
theorem isTextChar_of_mem_text {t : Instant} {c : Char} (h : c ∈ t.text.toList) : IsTextChar c := by
  have hmark : ∀ d ∈ ['+', '-', ':', '.', 'T', 'Z'], c = d → IsTextChar c := by
    rintro d hd rfl
    exact .inr hd
  have hhyphen : "-".toList = ['-'] := by decide
  -- one case for each part of the text and for each mark between them
  simp only [toList_text, dateText, timeChars, String.toList_append, toList_padded, hhyphen,
    List.mem_append, List.mem_cons, List.mem_nil_iff, or_false] at h
  rcases h with ((((h | h) | h) | h) | h) | h | (h | h | h | h | h | h) | h
  · exact isTextChar_of_mem_yearText h
  · exact hmark '-' (by decide) h
  · exact isTextChar_of_mem_paddedDigits h
  · exact hmark '-' (by decide) h
  · exact isTextChar_of_mem_paddedDigits h
  · exact hmark 'T' (by decide) h
  · exact isTextChar_of_mem_paddedDigits h
  · exact hmark ':' (by decide) h
  · exact isTextChar_of_mem_paddedDigits h
  · exact hmark ':' (by decide) h
  · exact isTextChar_of_mem_paddedDigits h
  · exact isTextChar_of_mem_fractionText h
  · exact hmark 'Z' (by decide) h

end CanaryMetrics.Instant
