import CanaryMetrics.Decimal.Shortest

namespace CanaryMetrics.Json

open Decimal

/-!
# JSON numbers

* `Numeral` — a number as it is spelled; `Numeral.chars` spells it.
* `Numeral.scan?` — the numeral at the start of a text.
* `Numeral.value` — what a numeral stands for: an integer of 64 bits if it is spelled as one and fits,
  otherwise a double, unless it is too large.
-/

/-- A number as it is spelled. -/
structure Numeral where
  /-- Does a minus sign come first? -/
  negative : Bool
  /-- The digits before the point; a zero leads only when it stands alone. -/
  whole : List Char
  /-- The digits after the point; none when there is no point. -/
  fraction : List Char
  /-- Whether the exponent is negative, and its digits. -/
  exponent : Option (Bool × List Char)
deriving DecidableEq, Repr

namespace Numeral

/-- The numeral of a natural number. -/
def ofNat (n : Nat) : Numeral :=
  ⟨false, Nat.toDigits 10 n, [], none⟩

/-- A numeral as text, with a small `e` and no plus sign. -/
def chars (n : Numeral) : List Char :=
  (if n.negative then ['-'] else []) ++ n.whole
    ++ (if n.fraction = [] then [] else '.' :: n.fraction)
    ++ match n.exponent with
      | none => []
      | some (negative, digits) => 'e' :: (if negative then ['-'] else []) ++ digits

/-! ### Scanning -/

/-- The digits at the start of a text, at least one, and the text after them. -/
def scanDigits? (cs : List Char) : Option (List Char × List Char) :=
  let ds := cs.takeWhile Char.isDigit
  if ds = [] then none else some (ds, cs.dropWhile Char.isDigit)

/-- A point and digits, or nothing. -/
def scanFraction? : List Char → Option (List Char × List Char)
  | '.' :: cs => scanDigits? cs
  | cs => some ([], cs)

/-- The sign of an exponent, which may be missing: is it negative? -/
def scanSign : List Char → Bool × List Char
  | '-' :: cs => (true, cs)
  | '+' :: cs => (false, cs)
  | cs => (false, cs)

/-- An exponent, or nothing. -/
def scanExponent? : List Char → Option (Option (Bool × List Char) × List Char)
  | [] => some (none, [])
  | c :: cs =>
    if c = 'e' ∨ c = 'E' then do
      let (ds, rest) ← scanDigits? (scanSign cs).2
      pure (some ((scanSign cs).1, ds), rest)
    else some (none, c :: cs)

/-- The numeral at the start of a text that has no sign, and the text after it. -/
def scanUnsigned? (negative : Bool) (cs : List Char) : Option (Numeral × List Char) := do
  let (whole, cs) ← scanDigits? cs
  if whole.head? = some '0' ∧ whole ≠ ['0'] then none
  else
    let (fraction, cs) ← scanFraction? cs
    let (exponent, cs) ← scanExponent? cs
    pure (⟨negative, whole, fraction, exponent⟩, cs)

/-- The numeral at the start of a text, and the text after it. -/
def scan? : List Char → Option (Numeral × List Char)
  | '-' :: cs => scanUnsigned? true cs
  | cs => scanUnsigned? false cs

/-- Digits that are scanned are taken off the text. -/
theorem length_of_scanDigits? {cs ds rest : List Char} (h : scanDigits? cs = some (ds, rest)) :
    rest.length < cs.length := by
  simp only [scanDigits?] at h
  split at h
  · cases h
  · rename_i hne
    cases h
    have hpos : 0 < (cs.takeWhile Char.isDigit).length := List.length_pos_iff.2 hne
    have hlen := congrArg List.length (List.takeWhile_append_dropWhile (p := Char.isDigit) (l := cs))
    rw [List.length_append] at hlen
    omega

/-- The sign of an exponent is taken off the text. -/
theorem length_scanSign_le (cs : List Char) : (scanSign cs).2.length ≤ cs.length := by
  unfold scanSign
  split <;> simp

/-- A fraction that is scanned is taken off the text. -/
theorem length_of_scanFraction? {cs ds rest : List Char} (h : scanFraction? cs = some (ds, rest)) :
    rest.length ≤ cs.length := by
  unfold scanFraction? at h
  split at h
  · have := length_of_scanDigits? h
    simp; omega
  · cases h; simp

/-- An exponent that is scanned is taken off the text. -/
theorem length_of_scanExponent? {cs rest : List Char} {e : Option (Bool × List Char)}
    (h : scanExponent? cs = some (e, rest)) : rest.length ≤ cs.length := by
  unfold scanExponent? at h
  split at h
  · cases h; simp
  · rename_i c cs
    split at h
    · simp only [bind, Option.bind_eq_some_iff, pure, Option.some.injEq, Prod.mk.injEq,
        Prod.exists] at h
      obtain ⟨ds, r, hr, -, rfl⟩ := h
      have h₁ := length_of_scanDigits? hr
      have h₂ := length_scanSign_le cs
      simp; omega
    · cases h; simp

/-- An unsigned numeral that is scanned is taken off the text. -/
theorem length_of_scanUnsigned? {negative : Bool} {cs rest : List Char} {n : Numeral}
    (h : scanUnsigned? negative cs = some (n, rest)) : rest.length < cs.length := by
  simp only [scanUnsigned?, bind, Option.bind_eq_some_iff, Prod.exists] at h
  obtain ⟨ds, r, hr, h⟩ := h
  split at h
  · cases h
  · simp only [Option.bind_eq_some_iff, pure, Option.some.injEq, Prod.mk.injEq, Prod.exists] at h
    obtain ⟨_, r', hr', _, r'', hr'', -, rfl⟩ := h
    have h₁ := length_of_scanDigits? hr
    have h₂ := length_of_scanFraction? hr'
    have h₃ := length_of_scanExponent? hr''
    omega

/-- A numeral that is scanned is taken off the text. -/
theorem length_of_scan? {cs rest : List Char} {n : Numeral} (h : scan? cs = some (n, rest)) :
    rest.length < cs.length := by
  unfold scan? at h
  split at h
  · have := length_of_scanUnsigned? h
    simp; omega
  · exact length_of_scanUnsigned? h

/-! ### Value -/

/-- What a numeral stands for. -/
inductive Value
  /-- An integer between `-2 ^ 63` and `2 ^ 64 - 1`, spelled without point and exponent. -/
  | integer (n : Int)
  /-- Any other number: its sign and its size. -/
  | double (negative : Bool) (size : Double)
  /-- A number too large for a double. -/
  | tooLarge
deriving DecidableEq, Repr

/-- Appends digits to a number of 64 bits for as long as it fits; also the number of digits taken. -/
def appendDigits (n : Nat) : List Char → Nat × Nat
  | [] => (n, 0)
  | d :: ds =>
    let next := 10 * n + (d.toNat - '0'.toNat)
    if next < UInt64.size then
      let (m, taken) := appendDigits next ds
      (m, taken + 1)
    else (n, 0)

/-- A double divided by a power of ten, in steps of at most `10 ^ 308`, each of which rounds. -/
def divPowTen (x : Double) (exponent : Nat) : Option Double :=
  if exponent ≤ 308 then do
    let power ← Double.nearest? (Nat.pow 10 exponent) 1
    x.div? power
  else if x.mantissa = 0 then some x
  else do
    let power ← Double.nearest? (Nat.pow 10 308) 1
    divPowTen (← x.div? power) (exponent - 308)
termination_by exponent

/-- A double times a power of ten, rounded once for the power and once for the product. -/
def mulPowTen (x : Double) (exponent : Nat) : Option Double :=
  if x.mantissa = 0 then some x
  else if exponent ≤ 308 then do
    let power ← Double.nearest? (Nat.pow 10 exponent) 1
    x.mul? power
  else none

/-- The exponent of ten that a numeral spells. -/
def spelledExponent (n : Numeral) : Int :=
  match n.exponent with
  | none => 0
  | some (negative, digits) =>
    let e : Int := Nat.ofDigitChars 10 digits 0
    if negative then -e else e

/-- The size of a numeral as a double: as many digits as fit 64 bits, times a power of ten. -/
def size (n : Numeral) : Option Double := do
  let (head, taken) := appendDigits 0 n.whole
  let (digits, takenAfterPoint) := appendDigits head n.fraction
  let exponent := n.spelledExponent + (n.whole.length - taken : Nat) - takenAfterPoint
  let x ← Double.nearest? digits 1
  if 0 ≤ exponent then mulPowTen x exponent.toNat else divPowTen x exponent.natAbs

/-- The integer that a numeral spells without point and exponent, when it fits 64 bits; zero with a
    minus sign is not one. -/
def integer? (n : Numeral) : Option Int :=
  let whole := Nat.ofDigitChars 10 n.whole 0
  if n.fraction = [] ∧ n.exponent = none then
    if n.negative then
      if 0 < whole ∧ whole ≤ 9223372036854775808 then some (-(whole : Int)) else none
    else if whole < UInt64.size then some whole else none
  else none

/-- What a numeral stands for. -/
def value (n : Numeral) : Value :=
  match n.integer? with
  | some i => .integer i
  | none =>
    match n.size with
    | some x => .double n.negative x
    | none => .tooLarge

/-! ### Unit test: the ends of the 64-bit range, a negative zero, an overflow -/

/-- What the numeral that is the whole text stands for. -/
private def valueOf (s : String) : Option Value :=
  match scan? s.toList with
  | some (n, []) => some n.value
  | _ => none

example : valueOf "18446744073709551615" = some (.integer 18446744073709551615)
    ∧ valueOf "-9223372036854775808" = some (.integer (-9223372036854775808)) := by decide +kernel

example : valueOf "18446744073709551616" = some (.double false ⟨2 ^ 52, 12⟩)
    ∧ valueOf "-0" = some (.double true .zero) := by decide +kernel

example : valueOf "6e1" = some (.double false ⟨60 * 2 ^ 47, -47⟩) ∧ valueOf "1e400" = some .tooLarge := by
  decide +kernel

example : ["01", "-", "1.", "1e", "+1", ".5"].map valueOf = List.replicate 6 none := by decide +kernel

end Numeral

end CanaryMetrics.Json
