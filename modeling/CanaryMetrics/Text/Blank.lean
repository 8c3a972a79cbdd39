namespace CanaryMetrics.Text

/-!
# Blank characters

* `isBlank` — the characters that have the Unicode property `White_Space`.
* `trimStart`, `trimEnd` — a text without the blanks at one of its ends.
-/

/-- The ranges, first and last code point, of the Unicode property `White_Space`. -/
def blankRanges : List (Nat × Nat) :=
  [(0x0009, 0x000D), (0x0020, 0x0020), (0x0085, 0x0085), (0x00A0, 0x00A0), (0x1680, 0x1680),
   (0x2000, 0x200A), (0x2028, 0x2029), (0x202F, 0x202F), (0x205F, 0x205F), (0x3000, 0x3000)]

/-- A character is blank when its code point lies in one of the ranges. -/
def isBlank (c : Char) : Bool :=
  blankRanges.any fun r => r.1 ≤ c.toNat && c.toNat ≤ r.2

/-- A text without its leading blanks. -/
def trimStart (cs : List Char) : List Char :=
  cs.dropWhile isBlank

/-- A text without its trailing blanks. -/
def trimEnd (cs : List Char) : List Char :=
  (cs.reverse.dropWhile isBlank).reverse

/-- Trimming the start of a text that starts with no blank changes nothing. -/
theorem trimStart_cons_of_not_isBlank {c : Char} (h : isBlank c = false) (cs : List Char) :
    trimStart (c :: cs) = c :: cs := by
  simp [trimStart, h]

/-! ### Unit test: the ranges are ascending and hold the 25 blank characters -/

example : blankRanges.Pairwise (fun a b => a.2 < b.1) := by decide

example : (blankRanges.map fun r => r.2 - r.1 + 1).sum = 25 := by decide

example : trimEnd (trimStart " \ta b\u3000".toList) = "a b".toList := by decide

end CanaryMetrics.Text
