namespace CanaryMetrics.Text

/-!
# Numbers of a fixed width

* `paddedDigits` — the decimal digits of a number with zeros in front up to a width.
* `ofDigitChars_paddedDigits` — the zeros do not change the number.
-/

/-- The decimal digits of a number, with zeros in front when there are fewer than `width`. -/
def paddedDigits (width n : Nat) : List Char :=
  (Nat.toDigits 10 n).leftpad width '0'

/-- A number written with at least `width` digits. -/
def padded (width n : Nat) : String :=
  String.ofList (paddedDigits width n)

@[simp]
theorem toList_padded (width n : Nat) : (padded width n).toList = paddedDigits width n := by
  simp [padded]

/-- Read as a number, the padded digits are the number they were made from. -/
@[simp]
theorem ofDigitChars_paddedDigits (width n : Nat) :
    Nat.ofDigitChars 10 (paddedDigits width n) 0 = n := by
  simp [paddedDigits, List.leftpad, Nat.ofDigitChars_append, Nat.ofDigitChars_replicate_zero,
    Nat.ofDigitChars_ten_toDigits]

/-- All characters of a padded number are digits. -/
theorem isDigit_of_mem_paddedDigits {width n : Nat} {c : Char} (h : c ∈ paddedDigits width n) :
    c.isDigit = true := by
  rcases List.mem_append.1 h with h | h
  · rw [List.eq_of_mem_replicate h]; decide
  · exact Nat.isDigit_of_mem_toDigits (by decide) (by decide) h

/-- A padded number has `width` digits unless it needs more. -/
theorem length_paddedDigits (width n : Nat) :
    (paddedDigits width n).length = max width (Nat.toDigits 10 n).length := by
  simp [paddedDigits]; omega

/-! ### Unit test: short, exact and long -/

example : padded 4 70 = "0070" ∧ padded 2 59 = "59" ∧ padded 2 100 = "100" := by decide

end CanaryMetrics.Text
