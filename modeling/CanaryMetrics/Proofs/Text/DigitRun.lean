import CanaryMetrics.Text.Blank
import CanaryMetrics.Text.Padded
import Mathlib.Algebra.Group.Nat.Defs

namespace CanaryMetrics.Text

/-!
# Runs of digits within a text

Readers of numbers take the digits that come first.  What they take is the number that was written
when no digit follows it, or when they stop at its length.

* `NoDigitFirst` — no digit comes first.
* `takeWhile_run_append`, `dropWhile_run_append` — a run of characters of a class that nothing prolongs,
  with `takeWhile_isDigit_append`, `dropWhile_isDigit_append` for digits.
* `ne_of_isDigit`, `ne_of_all_not`, `isBlank_of_isDigit`, `trimStart_digits_append` — digits are no marks
  and no blanks.
* `length_paddedDigits_of_lt` — the width of a number that fits it.
* `ofDigitChars_lt` — a run of digits spells a number below the power of ten of its length.
* `toDigits_eq_zero` — only the digits of zero start with a zero.
-/

/-- No digit comes first in a text. -/
def NoDigitFirst (cs : List Char) : Prop :=
  ∀ c ∈ cs.head?, c.isDigit = false

@[simp] theorem noDigitFirst_cons {c : Char} {cs : List Char} :
    NoDigitFirst (c :: cs) ↔ c.isDigit = false := by
  simp [NoDigitFirst]

/-- A run of characters of a class is taken as a whole when nothing prolongs it. -/
theorem takeWhile_run_append {p : Char → Bool} {run rest : List Char} (hrun : ∀ c ∈ run, p c = true)
    (hrest : ∀ c ∈ rest.head?, p c = false) : (run ++ rest).takeWhile p = run := by
  rw [List.takeWhile_append_of_pos hrun]
  cases rest with
  | nil => rw [List.takeWhile_nil, List.append_nil]
  | cons c rest => rw [List.takeWhile_cons_of_neg (by simpa using hrest), List.append_nil]

/-- What follows such a run is left when nothing prolongs it. -/
theorem dropWhile_run_append {p : Char → Bool} {run rest : List Char} (hrun : ∀ c ∈ run, p c = true)
    (hrest : ∀ c ∈ rest.head?, p c = false) : (run ++ rest).dropWhile p = rest := by
  rw [List.dropWhile_append_of_pos hrun]
  cases rest with
  | nil => rfl
  | cons c rest => rw [List.dropWhile_cons_of_neg (by simpa using hrest)]

/-- A run of digits is taken as a whole when nothing prolongs it. -/
theorem takeWhile_isDigit_append {ds rest : List Char} (hds : ∀ c ∈ ds, c.isDigit = true)
    (hrest : NoDigitFirst rest) : (ds ++ rest).takeWhile Char.isDigit = ds :=
  takeWhile_run_append hds hrest

/-- What follows a run of digits is left when nothing prolongs the run. -/
theorem dropWhile_isDigit_append {ds rest : List Char} (hds : ∀ c ∈ ds, c.isDigit = true)
    (hrest : NoDigitFirst rest) : (ds ++ rest).dropWhile Char.isDigit = rest :=
  dropWhile_run_append hds hrest

/-! ### Digits and blanks -/

/-- A digit's code point. -/
theorem toNat_of_isDigit {c : Char} (h : c.isDigit = true) : 48 ≤ c.toNat ∧ c.toNat ≤ 57 := by
  simp only [Char.isDigit, Bool.and_eq_true, decide_eq_true_eq] at h
  exact ⟨UInt32.le_iff_toNat_le.1 h.1, UInt32.le_iff_toNat_le.1 h.2⟩

/-- A digit is none of the characters that are no digits. -/
theorem ne_of_isDigit {c d : Char} (hc : c.isDigit = true) (hd : d.isDigit = false) : c ≠ d := by
  intro heq
  rw [heq, hd] at hc
  cases hc

/-- A character with a property is none of those that lack it. -/
theorem ne_of_all_not {p : Char → Bool} {ds : List Char} (h : ds.all (fun d => !p d) = true) {c : Char}
    (hc : p c = true) : ∀ d ∈ ds, c ≠ d := by
  rintro d hd rfl
  have hnot := List.all_eq_true.1 h c hd
  rw [hc] at hnot
  cases hnot

/-- Digits are not blank. -/
theorem isBlank_of_isDigit {c : Char} (h : c.isDigit = true) : isBlank c = false := by
  have hbounds := toNat_of_isDigit h
  simp only [isBlank, blankRanges, List.any_cons, List.any_nil, Bool.or_false, Bool.or_eq_false_iff,
    Bool.and_eq_false_iff, decide_eq_false_iff_not]
  omega

/-- A text that starts with a digit is trimmed already. -/
theorem trimStart_digits_append {ds : List Char} (hds : ∀ c ∈ ds, c.isDigit = true) (hne : ds ≠ [])
    (rest : List Char) : trimStart (ds ++ rest) = ds ++ rest := by
  cases ds with
  | nil => exact absurd rfl hne
  | cons d ds =>
    exact trimStart_cons_of_not_isBlank (isBlank_of_isDigit (hds d List.mem_cons_self)) _

/-! ### Padded numbers -/

/-- There is at least one digit. -/
theorem paddedDigits_ne_nil (width n : Nat) : paddedDigits width n ≠ [] := by
  intro h
  have hlength := length_paddedDigits width n
  have hpos := Nat.length_toDigits_pos (b := 10) (n := n)
  rw [h, List.length_nil] at hlength
  omega

/-- A number that fits the width has exactly that many digits. -/
theorem length_paddedDigits_of_lt {width n : Nat} (hwidth : 0 < width) (h : n < 10 ^ width) :
    (paddedDigits width n).length = width := by
  have hle := (Nat.length_toDigits_le_iff (b := 10) (by decide) hwidth).2 h
  rw [length_paddedDigits]
  omega

/-! ### What a run of digits spells -/

/-- A number that digits prolong stays below the next power of ten of their length. -/
theorem ofDigitChars_lt_mul {ds : List Char} (h : ∀ c ∈ ds, c.isDigit = true) (init : Nat) :
    Nat.ofDigitChars 10 ds init < (init + 1) * 10 ^ ds.length := by
  induction ds generalizing init with
  | nil => simp
  | cons d ds ih =>
    have hd := toNat_of_isDigit (h d List.mem_cons_self)
    have hzero : '0'.toNat = 48 := rfl
    -- a digit is at most 9, and with it the number stays below the next multiple of ten
    have hinit : 10 * init + (d.toNat - '0'.toNat) + 1 ≤ (init + 1) * 10 := by omega
    rw [Nat.ofDigitChars_cons, List.length_cons, Nat.pow_succ']
    calc Nat.ofDigitChars 10 ds (10 * init + (d.toNat - '0'.toNat))
        < (10 * init + (d.toNat - '0'.toNat) + 1) * 10 ^ ds.length :=
          ih (fun c hc => h c (List.mem_cons_of_mem _ hc)) _
      _ ≤ (init + 1) * 10 * 10 ^ ds.length := Nat.mul_le_mul_right _ hinit
      _ = (init + 1) * (10 * 10 ^ ds.length) := Nat.mul_assoc ..

/-- A run of digits spells a number below the power of ten of its length. -/
theorem ofDigitChars_lt {ds : List Char} (h : ∀ c ∈ ds, c.isDigit = true) :
    Nat.ofDigitChars 10 ds 0 < 10 ^ ds.length := by
  have hlt := ofDigitChars_lt_mul h 0
  rwa [Nat.zero_add, Nat.one_mul] at hlt

/-- Only zero has a zero in front. -/
theorem toDigits_eq_zero {n : Nat} (h : (Nat.toDigits 10 n).head? = some '0') :
    Nat.toDigits 10 n = ['0'] := by
  induction n using Nat.strongRecOn with
  | ind n ih =>
    by_cases hn : n < 10
    · rw [Nat.toDigits_of_lt_base hn] at h ⊢
      rw [Option.some.inj h]
    · -- the digits in front of the last one are those of a number that is not zero
      have hne : Nat.toDigits 10 (n / 10) ≠ [] := Nat.toDigits_ne_nil
      obtain ⟨d, ds, hfront⟩ := List.exists_cons_of_ne_nil hne
      rw [Nat.toDigits_of_base_le (by decide) (by omega), hfront] at h
      have hzero := ih (n / 10) (by omega) (by rw [hfront]; exact h)
      have hvalue : n / 10 = 0 := by
        rw [← Nat.ofDigitChars_ten_toDigits (n := n / 10), hzero]
        rfl
      omega

end CanaryMetrics.Text
