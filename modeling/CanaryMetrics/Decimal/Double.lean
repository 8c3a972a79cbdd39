namespace CanaryMetrics.Decimal

/-!
# Binary floating point numbers

A double has 53 bits of mantissa and exponents from -1074 to 971.  Everything here is exact arithmetic
on natural numbers.

* `Double.nearest?` — the double nearest to a fraction, of two equally near ones the even one.
* `Double.mul?`, `Double.div?` — product and quotient, rounded once.
-/

/-- A finite non-negative double, of value `mantissa · 2 ^ exponent`. -/
structure Double where
  /-- The mantissa, at least `2 ^ 52` unless the exponent is the least one. -/
  mantissa : Nat
  /-- The exponent of two. -/
  exponent : Int
deriving DecidableEq, Repr

/-- The natural number nearest to a fraction, of two equally near ones the even one. -/
def roundHalfEven (num den : Nat) : Nat :=
  let floor := num / den
  let rest := 2 * (num % den)
  if rest < den then floor
  else if den < rest then floor + 1
  else floor + floor % 2

/-- A fraction divided by a power of two, as a fraction. -/
def divPowTwo (num den : Nat) (exponent : Int) : Nat × Nat :=
  (num * Nat.pow 2 (-exponent).toNat, den * Nat.pow 2 exponent.toNat)

/-- The exponent of the greatest power of two that is not above a positive fraction. -/
def floorLogTwo (num den : Nat) : Int :=
  let guess : Int := (num.log2 : Int) - den.log2
  let scaled := divPowTwo num den guess
  if scaled.2 ≤ scaled.1 then guess else guess - 1

namespace Double

/-- The number zero. -/
def zero : Double := ⟨0, -1074⟩

/-- The least mantissa of a number whose exponent is not the least one: `2 ^ 52`. -/
def leastNormal : Nat := 4503599627370496

/-- The least exponent. -/
def leastExponent : Int := -1074

/-- The greatest exponent. -/
def greatestExponent : Int := 971

/-- The double nearest to a fraction with a positive denominator; none when the fraction is too large. -/
def nearest? (num den : Nat) : Option Double :=
  if num = 0 then some zero
  else
    let exponent := max (floorLogTwo num den - 52) leastExponent
    let scaled := divPowTwo num den exponent
    let mantissa := roundHalfEven scaled.1 scaled.2
    let found : Double :=
      if mantissa = 2 * leastNormal then ⟨leastNormal, exponent + 1⟩ else ⟨mantissa, exponent⟩
    if found.exponent ≤ greatestExponent then some found else none

/-- The value as a fraction. -/
def fraction (x : Double) : Nat × Nat :=
  (x.mantissa * Nat.pow 2 x.exponent.toNat, Nat.pow 2 (-x.exponent).toNat)

/-- The product of two doubles, rounded; none when it is too large. -/
def mul? (x y : Double) : Option Double :=
  nearest? (x.fraction.1 * y.fraction.1) (x.fraction.2 * y.fraction.2)

/-- The quotient of two doubles, rounded; none when it is too large.  The divisor is not zero. -/
def div? (x y : Double) : Option Double :=
  nearest? (x.fraction.1 * y.fraction.2) (x.fraction.2 * y.fraction.1)

/-! ### Unit test: one, one tenth, the least number, and a number that is too large -/

example : nearest? 1 1 = some ⟨2 ^ 52, -52⟩ := by decide

example : nearest? 1 10 = some ⟨7205759403792794, -56⟩ := by decide

example : nearest? 1 (10 ^ 323) = some ⟨2, -1074⟩ ∧ nearest? 1 (10 ^ 324) = some ⟨0, -1074⟩ := by
  decide +kernel

example : nearest? (10 ^ 308) 1 ≠ none ∧ nearest? (2 * 10 ^ 308) 1 = none := by decide +kernel

end Double

end CanaryMetrics.Decimal
