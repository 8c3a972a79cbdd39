import CanaryMetrics.Proofs.Instant.Accepted
import CanaryMetrics.Proofs.Instant.Grammar
import Mathlib.Data.List.Basic

namespace CanaryMetrics.Instant

open Calendar Text

/-!
# Accepted texts are those that can be divided

The reader goes from left to right, and of digits and of blanks it takes as many as there are.  Here it
is compared with the grammar, part by part.  What a reader takes off is the part that it should be; and
such a part is taken off whatever follows it, as long as no digit does.

* `exists_numberText_of_digits`, `exists_dateText_of_readDate`, … — what is taken off.
* `number_append`, `readDate_append`, … — that it is taken off.
* `Proper` — what the values of the parts have to satisfy.
* `ofText_iff_spells` — hence the accepted texts, and the instants that they spell.
-/

variable {cs ds rest taken : List Char} {n : Nat}

/-! ### Numbers and marks -/

/-- The digits that are taken spell a number. -/
theorem exists_numberText_of_digits {limit : Nat} (h : digits limit cs = .ok (ds, rest)) :
    NumberText ds (Nat.ofDigitChars 10 ds 0) ∧ ds.length ≤ limit ∧ cs = ds ++ rest := by
  have hdigit := isDigit_of_digits h
  unfold digits at h
  simp only at h
  split at h
  · cases h
  · rename_i hne
    cases h
    refine ⟨⟨hdigit, hne, rfl⟩, List.length_take_le .., ?_⟩
    -- cutting the run of digits at the limit still leaves a first part of the text
    have hprefix : (cs.takeWhile Char.isDigit).take limit <+: cs :=
      (List.take_prefix _ _).trans (List.takeWhile_prefix _)
    exact (List.prefix_iff_eq_append.1 hprefix).symm

/-- A number that is read has one or two digits, after white space. -/
theorem exists_shortNumber_of_number {low high : Nat} (h : number 2 low high cs = .ok (n, rest)) :
    ∃ taken, ShortNumber taken n ∧ cs = taken ++ rest := by
  rw [number] at h
  obtain ⟨⟨ds, after⟩, hds, h⟩ := bind_eq_ok_iff.1 h
  simp only at h
  split at h
  · cases h
    obtain ⟨hnumber, hlength, heq⟩ := exists_numberText_of_digits hds
    obtain ⟨bs, hbs, hcs⟩ := exists_blanks_append_trimStart cs
    exact ⟨bs ++ ds, .intro hbs hnumber hlength, by rw [hcs, heq, List.append_assoc]⟩
  · cases h

/-- A number of one or two digits is read when it is in range. -/
theorem number_append {low high : Nat} (h : ShortNumber taken n) (hlow : low ≤ n) (hhigh : n ≤ high)
    (hrest : NoDigitFirst rest) : number 2 low high (taken ++ rest) = .ok (n, rest) := by
  cases h with
  | @intro bs ds n hbs hds hlength =>
    rw [number, List.append_assoc, trimStart_blanks_append hbs,
      trimStart_digits_append hds.isDigit hds.ne_nil,
      digits_append hds.isDigit hds.ne_nil hlength (.inr hrest), ok_bind]
    simp only [hds.value, if_pos (And.intro hlow hhigh)]

/-- A mark that is read comes after white space. -/
theorem exists_mark_of_expect {c : Char} (h : expect c (trimStart cs) = .ok rest) :
    ∃ taken, Mark c taken ∧ cs = taken ++ rest := by
  obtain ⟨bs, hbs, hcs⟩ := exists_blanks_append_trimStart cs
  unfold expect at h
  split at h
  · cases h
  · rename_i d tail heq
    split at h
    · rename_i hd
      cases h
      rw [hd] at heq
      exact ⟨bs ++ [c], .intro hbs, by rw [hcs, heq, List.append_assoc, List.singleton_append]⟩
    · cases h

/-- A mark is read after white space. -/
theorem expect_append {c : Char} (h : Mark c taken) (hc : isBlank c = false) (rest : List Char) :
    expect c (trimStart (taken ++ rest)) = .ok rest := by
  cases h with
  | intro hbs =>
    rw [List.append_assoc, trimStart_blanks_append hbs, List.singleton_append]
    exact expect_cons hc rest

/-! ### The date -/

variable {y : Int} {d : Date}

/-- A year that is read has a sign or at most four digits. -/
theorem exists_yearText_of_readYearDigits (h : readYearDigits cs = .ok (y, rest)) :
    ∃ taken, YearText taken y ∧ cs = taken ++ rest := by
  unfold readYearDigits at h
  split at h
  · obtain ⟨⟨ds, after⟩, hds, h⟩ := bind_eq_ok_iff.1 h
    cases h
    obtain ⟨hnumber, -, heq⟩ := exists_numberText_of_digits hds
    exact ⟨'-' :: ds, .minus hnumber, by rw [heq, List.cons_append]⟩
  · obtain ⟨⟨ds, after⟩, hds, h⟩ := bind_eq_ok_iff.1 h
    cases h
    obtain ⟨hnumber, -, heq⟩ := exists_numberText_of_digits hds
    exact ⟨'+' :: ds, .plus hnumber, by rw [heq, List.cons_append]⟩
  · obtain ⟨⟨ds, after⟩, hds, h⟩ := bind_eq_ok_iff.1 h
    cases h
    obtain ⟨hnumber, hlength, heq⟩ := exists_numberText_of_digits hds
    exact ⟨ds, .unsigned hnumber hlength, heq⟩

/-- A year is read when no digit follows it. -/
theorem readYearDigits_append (h : YearText taken y) (hrest : NoDigitFirst rest) :
    readYearDigits (taken ++ rest) = .ok (y, rest) := by
  cases h with
  -- without a sign four digits are taken at most, and the text has no more
  | unsigned hds hlength =>
    rw [readYearDigits_digits_append hds.isDigit hds.ne_nil hlength (.inr hrest), hds.value]
  -- after a sign all the digits are taken
  | plus hds | minus hds =>
    rw [List.cons_append, readYearDigits,
      digits_append hds.isDigit hds.ne_nil (by simp) (.inr hrest), ok_bind]
    simp only [hds.value]
    rfl

/-- A year begins with a sign or a digit. -/
theorem trimStart_yearText_append (h : YearText taken y) (rest : List Char) :
    trimStart (taken ++ rest) = taken ++ rest := by
  cases h with
  | unsigned hds hlength => exact trimStart_digits_append hds.isDigit hds.ne_nil rest
  | plus hds => exact trimStart_cons_of_not_isBlank (c := '+') (by decide) _
  | minus hds => exact trimStart_cons_of_not_isBlank (c := '-') (by decide) _

/-- A date that is read is divided by hyphens. -/
theorem exists_dateText_of_readDate (h : readDate cs = .ok (d, rest)) :
    ∃ taken, DateText taken d ∧ cs = taken ++ rest := by
  rw [readDate] at h
  obtain ⟨⟨y, cs₁⟩, hyear, h⟩ := bind_eq_ok_iff.1 h
  obtain ⟨cs₂, hhyphen, h⟩ := bind_eq_ok_iff.1 h
  obtain ⟨⟨m, cs₃⟩, hmonth, h⟩ := bind_eq_ok_iff.1 h
  obtain ⟨cs₄, hhyphen', h⟩ := bind_eq_ok_iff.1 h
  obtain ⟨⟨d, cs₅⟩, hday, h⟩ := bind_eq_ok_iff.1 h
  cases h
  rw [readYear] at hyear
  obtain ⟨⟨y', after⟩, hdigits, hyear⟩ := bind_eq_ok_iff.1 hyear
  simp only at hyear
  split at hyear
  · cases hyear
    -- each reader starts where the one before it stopped, so the parts join up to the text
    obtain ⟨bs, hbs, hcs⟩ := exists_blanks_append_trimStart cs
    obtain ⟨year, htext, heq⟩ := exists_yearText_of_readYearDigits hdigits
    obtain ⟨hyphen, hmark, rfl⟩ := exists_mark_of_expect hhyphen
    obtain ⟨month, hm, rfl⟩ := exists_shortNumber_of_number hmonth
    obtain ⟨hyphen', hmark', rfl⟩ := exists_mark_of_expect hhyphen'
    obtain ⟨day, hd, rfl⟩ := exists_shortNumber_of_number hday
    refine ⟨_, .intro hbs htext hmark hm hmark' hd, ?_⟩
    rw [hcs, heq]
    simp only [List.append_assoc]
  · cases hyear

/-- A date that exists is read when no digit follows it. -/
theorem readDate_append (h : DateText taken d) (hd : d.Exists) (hyear : coversYear d.year)
    (hrest : NoDigitFirst rest) : readDate (taken ++ rest) = .ok (d, rest) := by
  cases h with
  | @intro bs year month day hyphen hyphen' y m d hbs htext hmark hm hmark' hday =>
    obtain ⟨hm₁, hm₂, hd₁, hd₂⟩ := hd
    obtain ⟨hfirst, hlast⟩ := hyear
    have hlength := monthLength_le y m
    simp only at hm₁ hm₂ hd₁ hd₂ hfirst hlast
    -- the years of the calendar are a part of the 32-bit integers that the reader asks for
    have hrange : -2147483648 ≤ y ∧ y ≤ 2147483647 := by omega
    -- a hyphen follows the year and the month, and ends their digits
    have hhyphen : ∀ tail, NoDigitFirst (hyphen ++ tail) := hmark.noDigitFirst (by decide)
    have hhyphen' : ∀ tail, NoDigitFirst (hyphen' ++ tail) := hmark'.noDigitFirst (by decide)
    simp only [List.append_assoc]
    rw [readDate, readYear, trimStart_blanks_append hbs, trimStart_yearText_append htext,
      readYearDigits_append htext (hhyphen _), ok_bind]
    simp only [if_pos hrange, ok_bind]
    rw [expect_append hmark (by decide), ok_bind, number_append hm hm₁ hm₂ (hhyphen' _), ok_bind]
    simp only
    rw [expect_append hmark' (by decide), ok_bind,
      number_append hday hd₁ (Nat.le_trans hd₂ hlength) hrest, ok_bind]
    rfl

/-! ### The time of day -/

variable {time : TimeOfDay}

/-- Digits after a point stand for what they spell, counted in nanoseconds and rounded down. -/
theorem nanosOfDigits_eq (h : ∀ c ∈ ds, c.isDigit = true) :
    nanosOfDigits ds = Nat.ofDigitChars 10 ds 0 * nanosPerSecond / 10 ^ ds.length := by
  have hnine : nanosPerSecond = 10 ^ 9 := rfl
  rw [nanosOfDigits, List.rightpad, Nat.ofDigitChars_append, Nat.ofDigitChars_replicate_zero, hnine]
  rcases Nat.le_total ds.length 9 with hshort | hlong
  · -- up to nine digits are filled up with zeros
    obtain ⟨k, hk⟩ := Nat.exists_eq_add_of_le hshort
    have hzeros : 9 - ds.length = k := by omega
    rw [List.take_of_length_le hshort, hzeros, hk, Nat.pow_add, Nat.mul_left_comm,
      Nat.mul_div_cancel_left _ (Nat.pow_pos (by decide)), Nat.mul_comm]
  · -- of more than nine digits the rest is dropped
    obtain ⟨k, hk⟩ := Nat.exists_eq_add_of_le hlong
    have htake : (ds.take 9).length = 9 := List.length_take_of_le hlong
    have hdrop : (ds.drop 9).length = k := by rw [List.length_drop]; omega
    have hdigit : ∀ c ∈ ds.drop 9, c.isDigit = true := fun c hc => h c (List.mem_of_mem_drop hc)
    have hlt : Nat.ofDigitChars 10 (ds.drop 9) 0 < 10 ^ k := hdrop ▸ ofDigitChars_lt hdigit
    have hvalue : Nat.ofDigitChars 10 ds 0
        = 10 ^ k * Nat.ofDigitChars 10 (ds.take 9) 0 + Nat.ofDigitChars 10 (ds.drop 9) 0 := by
      rw [← hdrop, ← Nat.ofDigitChars_eq_ofDigitChars_zero, ← Nat.ofDigitChars_append,
        List.take_append_drop]
    rw [htake, hvalue, hk, Nat.pow_add, Nat.sub_self, Nat.pow_zero, Nat.one_mul, Nat.mul_comm _ (10 ^ 9),
      Nat.mul_div_mul_left _ _ (by decide), Nat.mul_add_div (Nat.pow_pos (by decide)),
      Nat.div_eq_of_lt hlt, Nat.add_zero]

/-- A fraction that is read is nothing, or a point with digits. -/
theorem exists_fractionText_of_readFraction (h : readFraction cs = .ok (n, rest)) :
    ∃ taken, FractionText taken n ∧ cs = taken ++ rest := by
  unfold readFraction at h
  split at h
  · obtain ⟨⟨ds, after⟩, hds, h⟩ := bind_eq_ok_iff.1 h
    cases h
    obtain ⟨hnumber, -, heq⟩ := exists_numberText_of_digits hds
    rw [nanosOfDigits_eq hnumber.isDigit]
    exact ⟨'.' :: ds, .point hnumber, by rw [heq, List.cons_append]⟩
  · cases h
    exact ⟨[], .none, rfl⟩

/-- A fraction is read when neither a digit nor a point follows it. -/
theorem readFraction_append (h : FractionText taken n) (hrest : NoDigitFirst rest)
    (hpoint : ∀ c ∈ rest.head?, c ≠ '.') : readFraction (taken ++ rest) = .ok (n, rest) := by
  cases h with
  | none =>
    rw [List.nil_append]
    unfold readFraction
    split
    · exact absurd rfl (hpoint '.' rfl)
    · rfl
  | point hds =>
    rw [List.cons_append, readFraction, digits_append hds.isDigit hds.ne_nil (by simp) (.inr hrest),
      ok_bind]
    simp only [nanosOfDigits_eq hds.isDigit, hds.value]
    rfl

/-- No digit comes first where a fraction does, or what follows it. -/
theorem FractionText.noDigitFirst (h : FractionText taken n) (hrest : NoDigitFirst rest) :
    NoDigitFirst (taken ++ rest) := by
  cases h with
  | none => exact hrest
  | point hds => exact noDigitFirst_cons.2 (by decide)

/-- A time of day that is read is divided by colons. -/
theorem exists_timeText_of_readTimeOfDay (h : readTimeOfDay cs = .ok (time, rest)) :
    ∃ taken, TimeText taken time ∧ cs = taken ++ rest := by
  rw [readTimeOfDay] at h
  obtain ⟨⟨h', cs₁⟩, hhour, h⟩ := bind_eq_ok_iff.1 h
  obtain ⟨cs₂, hcolon, h⟩ := bind_eq_ok_iff.1 h
  obtain ⟨⟨m, cs₃⟩, hminute, h⟩ := bind_eq_ok_iff.1 h
  obtain ⟨cs₄, hcolon', h⟩ := bind_eq_ok_iff.1 h
  obtain ⟨⟨s, cs₅⟩, hsecond, h⟩ := bind_eq_ok_iff.1 h
  obtain ⟨⟨f, cs₆⟩, hfraction, h⟩ := bind_eq_ok_iff.1 h
  cases h
  -- as in a date, each reader starts where the one before it stopped
  obtain ⟨hour, hh, rfl⟩ := exists_shortNumber_of_number hhour
  obtain ⟨colon, hmark, rfl⟩ := exists_mark_of_expect hcolon
  obtain ⟨minute, hm, rfl⟩ := exists_shortNumber_of_number hminute
  obtain ⟨colon', hmark', rfl⟩ := exists_mark_of_expect hcolon'
  obtain ⟨second, hs, rfl⟩ := exists_shortNumber_of_number hsecond
  obtain ⟨fraction, hf, rfl⟩ := exists_fractionText_of_readFraction hfraction
  exact ⟨_, .intro hh hmark hm hmark' hs hf, by simp only [List.append_assoc]⟩

/-- A time of day that a clock shows is read when neither a digit nor a point follows it. -/
theorem readTimeOfDay_append (h : TimeText taken time) (hhour : time.hour ≤ 23)
    (hminute : time.minute ≤ 59) (hsecond : time.second ≤ 60) (hrest : NoDigitFirst rest)
    (hpoint : ∀ c ∈ rest.head?, c ≠ '.') : readTimeOfDay (taken ++ rest) = .ok (time, rest) := by
  cases h with
  | @intro hour minute second fraction colon colon' h m s f hh hmark hm hmark' hs hf =>
    -- colons end the digits of the hour and of the minute, and the fraction those of the second
    have hcolon : ∀ tail, NoDigitFirst (colon ++ tail) := hmark.noDigitFirst (by decide)
    have hcolon' : ∀ tail, NoDigitFirst (colon' ++ tail) := hmark'.noDigitFirst (by decide)
    simp only [List.append_assoc]
    rw [readTimeOfDay, number_append hh (Nat.zero_le _) hhour (hcolon _), ok_bind]
    simp only
    rw [expect_append hmark (by decide), ok_bind,
      number_append hm (Nat.zero_le _) hminute (hcolon' _), ok_bind]
    simp only
    rw [expect_append hmark' (by decide), ok_bind,
      number_append hs (Nat.zero_le _) hsecond (hf.noDigitFirst hrest), ok_bind]
    simp only
    rw [readFraction_append hf hrest hpoint, ok_bind]
    rfl

/-! ### The zone -/

variable {z : Int}

/-- Two digits that are read come first. -/
theorem twoDigits_eq_ok_iff {c d : Char} :
    twoDigits cs = .ok ((c, d), rest) ↔ cs = c :: d :: rest ∧ c.isDigit = true ∧ d.isDigit = true := by
  constructor
  · intro h
    unfold twoDigits at h
    split at h
    · cases h
    · cases h
    · split at h
      · rename_i hdigits
        cases h
        exact ⟨rfl, hdigits⟩
      · cases h
  · rintro ⟨rfl, hc, hd⟩
    exact if_pos ⟨hc, hd⟩

/-- Two digits spell a number below 60 exactly if the first one is below 6. -/
theorem six_le_iff {c d : Char} (hc : c.isDigit = true) (hd : d.isDigit = true) :
    '6' ≤ c ↔ ¬ Nat.ofDigitChars 10 [c, d] 0 < 60 := by
  have hzero : '0'.toNat = 48 := rfl
  have hsix : '6'.toNat = 54 := rfl
  have hle : '6' ≤ c ↔ '6'.toNat ≤ c.toNat := UInt32.le_iff_toNat_le
  -- digits are the code points from 48 to 57, so that comparing characters is arithmetic
  obtain ⟨-, hc⟩ := toNat_of_isDigit hc
  obtain ⟨-, hd⟩ := toNat_of_isDigit hd
  rw [Nat.ofDigitChars_cons, Nat.ofDigitChars_cons, Nat.ofDigitChars_nil, hle]
  omega

/-- Two digits are a number. -/
theorem numberText_pair {c d : Char} (hc : c.isDigit = true) (hd : d.isDigit = true) :
    NumberText [c, d] (Nat.ofDigitChars 10 [c, d] 0) where
  isDigit := List.forall_mem_cons.2 ⟨hc, List.forall_mem_singleton.2 hd⟩
  ne_nil := List.cons_ne_nil _ _
  value := rfl

/-- An offset that is read has hours and minutes. -/
theorem exists_offsetText_of_readOffset (h : readOffset cs = .ok (n, rest)) :
    ∃ taken, OffsetText taken n ∧ cs = taken ++ rest := by
  rw [readOffset] at h
  obtain ⟨⟨⟨a, b⟩, cs₁⟩, hhours, htail⟩ := bind_eq_ok_iff.1 h
  obtain ⟨⟨⟨c, d⟩, cs₂⟩, hminutes, hvalue⟩ := bind_eq_ok_iff.1 htail
  simp only at hvalue hminutes
  obtain ⟨rfl, ha, hb⟩ := twoDigits_eq_ok_iff.1 hhours
  obtain ⟨hrest, hc, hd⟩ := twoDigits_eq_ok_iff.1 hminutes
  split at hvalue
  · cases hvalue
  · rename_i hsix
    cases hvalue
    -- of the minutes only the first digit is looked at
    have hlt : Nat.ofDigitChars 10 [c, d] 0 < 60 := by
      rwa [six_le_iff hc hd, Classical.not_not] at hsix
    have hbetween : ∀ e ∈ cs₁.takeWhile fun c => c = ':' || isBlank c, e = ':' ∨ isBlank e = true := by
      intro e he
      simpa using List.all_eq_true.1 List.all_takeWhile e he
    refine ⟨_, .intro (numberText_pair ha hb) rfl hbetween (numberText_pair hc hd) rfl hlt, ?_⟩
    -- what is dropped before the minutes is the longest run of colons and white space
    have hdivide : cs₁ = cs₁.takeWhile (fun c => c = ':' || isBlank c) ++ c :: d :: rest := by
      rw [← hrest, List.takeWhile_append_dropWhile]
    simpa using hdivide

/-- An offset is read, whatever follows it. -/
theorem readOffset_append (h : OffsetText taken n) (rest : List Char) :
    readOffset (taken ++ rest) = .ok (n, rest) := by
  cases h with
  | @intro hours between minutes h m hhours htwo hbetween hminutes htwo' hlt =>
    obtain ⟨a, b, rfl⟩ := List.length_eq_two.1 htwo
    obtain ⟨c, d, rfl⟩ := List.length_eq_two.1 htwo'
    have ha := hhours.isDigit a List.mem_cons_self
    have hb := hhours.isDigit b (List.mem_cons_of_mem _ List.mem_cons_self)
    have hc := hminutes.isDigit c List.mem_cons_self
    have hd := hminutes.isDigit d (List.mem_cons_of_mem _ List.mem_cons_self)
    -- the minutes end the colons and the white space
    have hdrop : (between ++ c :: d :: rest).dropWhile (fun c => c = ':' || isBlank c)
        = c :: d :: rest := by
      apply dropWhile_run_append
      · intro e he
        simpa using hbetween e he
      · intro e he
        cases he
        simp [isBlank_of_isDigit hc, ne_of_isDigit hc (show ':'.isDigit = false by decide)]
    have hsix : ¬ '6' ≤ c := by
      rw [six_le_iff hc hd, Classical.not_not]
      exact hminutes.value ▸ hlt
    have htext : [a, b] ++ (between ++ [c, d]) ++ rest = a :: b :: (between ++ c :: d :: rest) := by
      simp
    rw [htext, readOffset, twoDigits_eq_ok_iff.2 ⟨rfl, ha, hb⟩, ok_bind]
    simp only [hdrop]
    rw [twoDigits_eq_ok_iff.2 ⟨rfl, hc, hd⟩, ok_bind]
    simp only [if_neg hsix, hhours.value, hminutes.value]
    rfl

/-- What has a letter as its small form is the letter, or the capital 32 code points before it. -/
theorem mem_of_toLower_eq {c capital small : Char} (h : c.toLower = small)
    (hcapital : capital.toNat + 32 = small.toNat) : c ∈ [capital, small] := by
  unfold Char.toLower at h
  split at h
  · rename_i hrange
    have hle : c.val.toNat ≤ 90 := UInt32.le_iff_toNat_le.1 hrange.2
    have hdiff : ('a'.val - 'A'.val).toNat = 32 := rfl
    -- a capital is at most 90, so that adding 32 does not leave the 32 bits
    have hsmall : small.toNat = c.val.toNat + 32 := by
      rw [← h]
      show (c.val + ('a'.val - 'A'.val)).toNat = c.val.toNat + 32
      rw [UInt32.toNat_add, hdiff]
      omega
    have heq : c = capital := Char.toNat_inj.1 (show c.val.toNat = capital.toNat by omega)
    exact heq ▸ List.mem_cons_self
  · exact h ▸ List.mem_cons_of_mem _ List.mem_cons_self

/-- `UTC` is read in capitals or not. -/
theorem dropUtc?_eq_some_iff :
    dropUtc? cs = some rest ↔ ∃ u t c, cs = u :: t :: c :: rest ∧
      u ∈ ['U', 'u'] ∧ t ∈ ['T', 't'] ∧ c ∈ ['C', 'c'] := by
  constructor
  · intro h
    unfold dropUtc? at h
    split at h
    · rename_i u t c tail
      split at h
      · rename_i hlower
        cases h
        simp only [List.cons.injEq, and_true] at hlower
        obtain ⟨hu, ht, hc⟩ := hlower
        exact ⟨u, t, c, rfl, mem_of_toLower_eq hu rfl, mem_of_toLower_eq ht rfl,
          mem_of_toLower_eq hc rfl⟩
      · cases h
    · cases h
  · rintro ⟨u, t, c, rfl, hu, ht, hc⟩
    -- two ways to write each letter, and one small form of all eight words
    have hlower : [u.toLower, t.toLower, c.toLower] = ['u', 't', 'c'] := by
      simp only [List.mem_cons, List.mem_nil_iff, or_false] at hu ht hc
      rcases hu with rfl | rfl <;> rcases ht with rfl | rfl <;> rcases hc with rfl | rfl <;> rfl
    exact if_pos hlower

/-- A zone that begins otherwise is not `UTC`. -/
theorem dropUtc?_cons_eq_none {c : Char} (hc : c ∉ ['U', 'u']) (tail : List Char) :
    dropUtc? (c :: tail) = none := by
  cases h : dropUtc? (c :: tail) with
  | none => rfl
  | some rest =>
    obtain ⟨u, t, c', heq, hu, -, -⟩ := dropUtc?_eq_some_iff.1 h
    exact absurd ((List.cons.inj heq).1 ▸ hu) hc

/-- A zone that is read is one. -/
theorem exists_zoneText_of_readZone (h : readZone cs = .ok (z, rest)) :
    ∃ taken, ZoneText taken z ∧ cs = taken ++ rest := by
  -- the reader tries `UTC`, `Z`, the plus sign and the minus signs in this order
  unfold readZone at h
  split at h
  · rename_i tail hutc
    cases h
    obtain ⟨u, t, c, rfl, hu, ht, hc⟩ := dropUtc?_eq_some_iff.1 hutc
    exact ⟨[u, t, c], .utc hu ht hc, rfl⟩
  · split at h
    · cases h
    · rename_i sign tail _
      split at h
      · rename_i hzulu
        cases h
        exact ⟨[sign], .zulu (by simpa using hzulu), rfl⟩
      · split at h
        · rename_i hplus
          obtain ⟨⟨minutes, after⟩, hoffset, h⟩ := bind_eq_ok_iff.1 h
          cases h
          obtain ⟨taken, htext, rfl⟩ := exists_offsetText_of_readOffset hoffset
          exact ⟨sign :: taken, hplus ▸ .east htext, rfl⟩
        · split at h
          · rename_i hminus
            obtain ⟨⟨minutes, after⟩, hoffset, h⟩ := bind_eq_ok_iff.1 h
            cases h
            obtain ⟨taken, htext, rfl⟩ := exists_offsetText_of_readOffset hoffset
            exact ⟨sign :: taken, .west (by simpa using hminus) htext, rfl⟩
          · cases h

/-- A zone is read, whatever follows it. -/
theorem readZone_append (h : ZoneText taken z) (rest : List Char) :
    readZone (taken ++ rest) = .ok (z, rest) := by
  cases h with
  | @utc u t c hu ht hc =>
    have hutc : dropUtc? ([u, t, c] ++ rest) = some rest :=
      dropUtc?_eq_some_iff.2 ⟨u, t, c, rfl, hu, ht, hc⟩
    unfold readZone
    rw [hutc]
  -- `UTC` is tried first, but the letter that begins another zone is not its first
  | @zulu sign hz =>
    have hnone : dropUtc? ([sign] ++ rest) = none := dropUtc?_cons_eq_none (by grind) rest
    have hzulu : sign = 'Z' ∨ sign = 'z' := by simpa using hz
    unfold readZone
    rw [hnone]
    exact if_pos hzulu
  | east h =>
    rw [List.cons_append, readZone, dropUtc?_cons_eq_none (by decide)]
    simp only [readOffset_append h]
    rfl
  | @west sign _ _ hsign h =>
    have hminus : sign = '-' ∨ sign = '\u2212' := by simpa using hsign
    rw [List.cons_append, readZone, dropUtc?_cons_eq_none (by grind)]
    -- the hyphen and the minus sign of mathematics
    rcases hminus with rfl | rfl
    · simp only [readOffset_append h]
      rfl
    · simp only [readOffset_append h]
      rfl

/-! ### The whole text -/

/-- What the values of the parts of a text have to satisfy. -/
structure Proper (d : Date) (time : TimeOfDay) (zone : Int) : Prop where
  /-- The date exists. -/
  dateExists : d.Exists
  /-- The hour. -/
  hour_le : time.hour ≤ 23
  /-- The minute. -/
  minute_le : time.minute ≤ 59
  /-- The second, which is 60 in a leap second. -/
  second_le : time.second ≤ 60
  /-- The zone is less than a day away. -/
  zone_lt : zone.natAbs < 1440
  /-- The calendar covers the date. -/
  coversDate : coversYear d.year
  /-- The calendar covers the date in UTC. -/
  coversUtc : coversYear (Date.ofDayNumber (utcSeconds d time zone / 86400)).year

/-- A delimiter that is read is one of three characters. -/
theorem readDelimiter_eq_ok_iff :
    readDelimiter cs = .ok rest ↔ ∃ c, cs = c :: rest ∧ c ∈ ['T', 't', ' '] := by
  cases cs with
  | nil => simp [readDelimiter]
  | cons c cs =>
    rw [readDelimiter]
    split
    · rename_i hc
      simp [hc, eq_comm]
    · rename_i hc
      simp [hc]

/-- The parts that are read off a text are parts that it can be divided into. -/
theorem spells_of_readParts (h : readParts cs = .ok (d, time, z)) : Spells cs d time z := by
  rw [readParts] at h
  obtain ⟨⟨d, cs₁⟩, hdate, h⟩ := bind_eq_ok_iff.1 h
  obtain ⟨cs₂, hdelimiter, h⟩ := bind_eq_ok_iff.1 h
  obtain ⟨⟨time, cs₃⟩, htime, h⟩ := bind_eq_ok_iff.1 h
  obtain ⟨⟨z, cs₄⟩, hzone, h⟩ := bind_eq_ok_iff.1 h
  simp only at h hzone
  split at h
  · rename_i hend
    cases h
    obtain ⟨date, hd, rfl⟩ := exists_dateText_of_readDate hdate
    obtain ⟨c, rfl, hc⟩ := readDelimiter_eq_ok_iff.1 hdelimiter
    obtain ⟨timeText, ht, rfl⟩ := exists_timeText_of_readTimeOfDay htime
    -- white space before the zone belongs to no part
    obtain ⟨bs, hbs, hcs₃⟩ := exists_blanks_append_trimStart cs₃
    obtain ⟨zone, hz, hzoneText⟩ := exists_zoneText_of_readZone hzone
    rw [hcs₃, hzoneText]
    exact .intro hd hc ht hbs hz (trimStart_eq_nil_iff.1 hend)
  · cases h

/-- The parts into which a text can be divided are read off it. -/
theorem readParts_of_spells (h : Spells cs d time z) (hproper : Proper d time z) :
    readParts cs = .ok (d, time, z) := by
  cases h with
  | @intro date timeChars bs zone bs' c _ _ _ hd hc ht hbs hz hbs' =>
    obtain ⟨first, tail, hfirst, hblank, hdigit, hpoint⟩ := hz.head
    have hzone : zone ++ bs' = first :: (tail ++ bs') := by rw [hfirst, List.cons_append]
    -- neither the zone nor the white space before it prolongs the time of day
    have htime : readTimeOfDay (timeChars ++ (bs ++ (zone ++ bs')))
        = .ok (time, bs ++ (zone ++ bs')) := by
      apply readTimeOfDay_append ht hproper.hour_le hproper.minute_le hproper.second_le
      · rw [hzone]
        exact noDigitFirst_blanks_append hbs (noDigitFirst_cons.2 hdigit)
      · rw [hzone]
        refine head_blanks_append (P := (· ≠ '.')) ?_ hbs ?_
        · rintro _ hc rfl
          revert hc
          decide
        · intro _ hc
          cases hc
          exact hpoint
    have hdelimiter : c.isDigit = false := by
      have hall : ['T', 't', ' '].all (fun c => !c.isDigit) = true := by decide
      simpa using List.all_eq_true.1 hall c hc
    rw [readParts, readDate_append hd hproper.dateExists hproper.coversDate
      (noDigitFirst_cons.2 hdelimiter), ok_bind]
    simp only
    rw [readDelimiter_eq_ok_iff.2 ⟨c, rfl, hc⟩, ok_bind, htime, ok_bind]
    simp only
    rw [trimStart_blanks_append hbs, hzone, trimStart_cons_of_not_isBlank hblank, ← hzone,
      readZone_append hz, ok_bind]
    exact if_pos (trimStart_eq_nil_iff.2 hbs')

/-- The values of the parts of an accepted text are proper. -/
theorem proper_of_ofLocal {t : Instant} (hparts : readParts cs = .ok (d, time, z))
    (h : ofLocal d time z = .ok t) : Proper d time z := by
  obtain ⟨hjoinable, hutc, -⟩ := ofLocal_eq_ok_iff.1 h
  have hclock := onClock_of_readParts hparts
  exact ⟨hjoinable.dateExists, hclock.hour_le, hclock.minute_le, hclock.second_le, hjoinable.zone_lt,
    hjoinable.coversYear, hutc⟩

/-- **Accepted texts.**

    * A text is accepted exactly if it can be divided into a date, a time of day and a zone whose
      values are proper.
    * However it is so divided, it spells the instant of these values: the days to the date, the time of
      day in seconds, a second 60 counting as 59, less the zone; and the fraction in nanoseconds, with a
      second more in a second 60.
    * The ends of a scope's window and of a job's window accept the same texts. -/
theorem ofText_iff_spells :
    (∀ s, (∃ t, ofText s = .ok t) ↔ ∃ d time zone, Spells s.toList d time zone ∧ Proper d time zone) ∧
    (∀ s d time zone, Spells s.toList d time zone → Proper d time zone →
      ∃ t, ofText s = .ok t ∧
        t.seconds = d.dayNumber * 86400 + 3600 * time.hour + 60 * time.minute + min time.second 59
          - 60 * zone ∧
        t.nanos = time.fraction + if time.second = 60 then nanosPerSecond else 0) ∧
    (∀ s t, (Datum.string s).readInstant = .ok t ↔ ofText s = .ok t) ∧
    ∀ setting s t, CommandLine.Settings.readInstant setting s = .ok t ↔ ofText s = .ok t := by
  -- a division with proper values is read, which is all but one direction of the first part
  have hvalue : ∀ s d time zone, Spells s.toList d time zone → Proper d time zone →
      ∃ t, ofText s = .ok t ∧ t.seconds = utcSeconds d time zone ∧ t.nanos = time.nanos := by
    intro s d time zone hspells hproper
    have hparts := readParts_of_spells hspells hproper
    have htext : ofText s = ofLocal d time zone := by rw [ofText, hparts, ok_bind]
    rw [htext]
    exact exists_ofLocal_eq_ok (onClock_of_readParts hparts)
      ⟨hproper.zone_lt, hproper.dateExists, hproper.coversDate⟩ hproper.coversUtc
  refine ⟨?_, ?_, fun _ _ => readInstant_string_eq_ok_iff, fun _ _ _ => readInstant_setting_eq_ok_iff⟩
  · intro s
    constructor
    · rintro ⟨t, ht⟩
      obtain ⟨⟨d, time, zone⟩, hparts, hlocal⟩ := bind_eq_ok_iff.1 ht
      exact ⟨d, time, zone, spells_of_readParts hparts, proper_of_ofLocal hparts hlocal⟩
    · rintro ⟨d, time, zone, hspells, hproper⟩
      obtain ⟨t, ht, -⟩ := hvalue s d time zone hspells hproper
      exact ⟨t, ht⟩
  · intro s d time zone hspells hproper
    obtain ⟨t, ht, hseconds, hnanos⟩ := hvalue s d time zone hspells hproper
    refine ⟨t, ht, ?_, hnanos⟩
    rw [hseconds, utcSeconds, localSeconds]
    omega

/-- A leap second, with blanks around a hyphen and a colon, in a zone behind UTC. -/
theorem ofText_of_divided_text :
    ∃ d time zone, Spells "+2016- 12-31 18:59 :60.50 \u221205 :00".toList d time zone ∧
      Proper d time zone ∧
      ∃ t, ofText "+2016- 12-31 18:59 :60.50 \u221205 :00" = .ok t ∧ t.seconds = 1483228799 ∧
        t.nanos = 1500000000 := by
  have hspells : Spells "+2016- 12-31 18:59 :60.50 \u221205 :00".toList ⟨2016, 12, 31⟩
      ⟨18, 59, 60, 500000000⟩ (-300) := spells_of_readParts (by rfl)
  have hproper : Proper ⟨2016, 12, 31⟩ ⟨18, 59, 60, 500000000⟩ (-300) :=
    ⟨by decide, by decide, by decide, by decide, by decide, by decide, by decide⟩
  obtain ⟨t, ht, hseconds, hnanos⟩ := ofText_iff_spells.2.1 _ _ _ _ hspells hproper
  exact ⟨_, _, _, hspells, hproper, t, ht, hseconds.trans (by decide), hnanos.trans (by decide)⟩

end CanaryMetrics.Instant
