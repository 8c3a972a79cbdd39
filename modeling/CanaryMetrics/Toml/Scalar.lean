import CanaryMetrics.Text.Hex
import CanaryMetrics.Toml.Value

namespace CanaryMetrics.Toml

open Decimal Text

/-!
# TOML scalars that are words

Numbers, truth values, dates and times are words of letters, digits and the characters `+ - . : _`.

* `Scalar.ofWord?` — the value that a whole word spells.
-/

namespace Scalar

/-- The characters of words. -/
def isWordChar (c : Char) : Bool :=
  c.isAlphanum || c = '+' || c = '-' || c = '.' || c = ':' || c = '_'

/-- Digits without the single underscores that may stand between two of them; at least one digit. -/
def ungroup? (isDigit : Char → Bool) : List Char → Option (List Char)
  | [] => none
  | [c] => if isDigit c then some [c] else none
  | c :: '_' :: cs => if isDigit c then (c :: ·) <$> ungroup? isDigit cs else none
  | c :: cs => if isDigit c then (c :: ·) <$> ungroup? isDigit cs else none

/-- The sign in front of a number: is it negative? -/
def dropSign : List Char → Bool × List Char
  | '-' :: cs => (true, cs)
  | '+' :: cs => (false, cs)
  | cs => (false, cs)

/-- An integer, if it has 64 bits. -/
def word? (n : Int) : Option Value :=
  if -9223372036854775808 ≤ n ∧ n ≤ 9223372036854775807 then some (.integer n) else none

/-! ### Integers -/

/-- The number that digits spell in a base. -/
def ofDigits (base : Nat) (ds : List Char) : Nat :=
  ds.foldl (fun n c => base * n + (hexDigit? c).getD 0) 0

/-- The digits of a base up to sixteen. -/
def isDigitOf (base : Nat) (c : Char) : Bool :=
  match hexDigit? c with
  | some n => n < base
  | none => false

/-- An integer in another base, after the two characters that name the base. -/
def basedInteger? (base : Nat) (cs : List Char) : Option Value := do
  word? (ofDigits base (← ungroup? (isDigitOf base) cs))

/-- Digits of a whole number: a zero leads only when it stands alone. -/
def wholeDigits? (cs : List Char) : Option (List Char) := do
  let ds ← ungroup? Char.isDigit cs
  if ds.head? = some '0' ∧ ds ≠ ['0'] then none else pure ds

/-- An integer in base ten. -/
def decimalInteger? (cs : List Char) : Option Value := do
  let (negative, cs) := dropSign cs
  let n : Int := ofDigits 10 (← wholeDigits? cs)
  word? (if negative then -n else n)

/-! ### Floating point numbers -/

/-- The double nearest to digits times a power of ten; none when that is too large.  Powers of ten so
    small or so large that the outcome is plain are not computed. -/
def double? (digits : List Char) (exponent : Int) : Option Double :=
  let n := ofDigits 10 digits
  let lead := exponent + (Nat.toDigits 10 n).length
  if n = 0 ∨ lead < -400 then some .zero
  else if 400 < lead then none
  else Double.nearest? (n * Nat.pow 10 exponent.toNat) (Nat.pow 10 (-exponent).toNat)

/-- The exponent of ten after the letter that announces it. -/
def exponent? (cs : List Char) : Option Int := do
  let (negative, cs) := dropSign cs
  let e : Int := ofDigits 10 (← ungroup? Char.isDigit cs)
  pure (if negative then -e else e)

/-- The digits after the point, if there is a point. -/
def fraction? : List Char → Option (List Char)
  | [] => some []
  | '.' :: cs => ungroup? Char.isDigit cs
  | _ => none

/-- The digits of a number that has a point, an exponent or both, but no sign, and the exponent of ten
    that belongs to the last digit. -/
def scientific? (cs : List Char) : Option (List Char × Int) := do
  let isE (c : Char) : Bool := c = 'e' || c = 'E'
  let (mantissa, tail) := (cs.takeWhile (!isE ·), cs.dropWhile (!isE ·))
  let whole ← wholeDigits? (mantissa.takeWhile (· ≠ '.'))
  let fraction ← fraction? (mantissa.dropWhile (· ≠ '.'))
  let exponent ← match tail with
    | [] => if fraction = [] then none else pure 0
    | _ :: ds => exponent? ds
  pure (whole ++ fraction, exponent - fraction.length)

/-- The number of a size, which is none when the size is too large: below all finite numbers that is
    the infinite one, above them there is none. -/
def ofSize? (negative : Bool) : Option Double → Option Real
  | some x => some (.finite negative x)
  | none => if negative then some (.infinite true) else none

/-- A floating point number. -/
def real? (cs : List Char) : Option Value :=
  let (negative, cs) := dropSign cs
  if cs = ['i', 'n', 'f'] then some (.real (.infinite negative))
  else if cs = ['n', 'a', 'n'] then some (.real .nan)
  else do
    let (digits, exponent) ← scientific? cs
    .real <$> ofSize? negative (double? digits exponent)

/-! ### Words -/

/-- The number that a word spells. -/
def number? (cs : List Char) : Option Value :=
  match cs with
  | '0' :: 'x' :: ds => basedInteger? 16 ds
  | '0' :: 'o' :: ds => basedInteger? 8 ds
  | '0' :: 'b' :: ds => basedInteger? 2 ds
  | _ =>
    match decimalInteger? cs with
    | some v => some v
    | none => real? cs

/-- The value that a word spells. -/
def ofWord? (cs : List Char) : Option Value :=
  if cs = ['t', 'r', 'u', 'e'] then some (.bool true)
  else if cs = ['f', 'a', 'l', 's', 'e'] then some (.bool false)
  else
    match DateTime.ofChars? cs with
    | some t => some (.dateTime t)
    | none => number? cs

/-! ### Unit test: words of each kind, and words of none -/

example : ["1_000", "+0", "-9223372036854775808", "0xFf", "0o17", "0b1_0"].map
      (fun s => match ofWord? s.toList with | some (.integer n) => some n | _ => none)
    = [1000, 0, -9223372036854775808, 255, 15, 2].map some := by decide +kernel

example : ["1.5", "-1e2_0", "6.25E-1", "-inf", "+nan", "0.0", "-1e400", "-0e400"].map
      (fun s => match ofWord? s.toList with | some (.real x) => some x.text | _ => none)
    = ["1.5", "-100000000000000000000.0", "0.625", "-inf", "NaN", "0.0", "-inf", "-0.0"].map some := by
  decide +kernel

example : ["", "_1", "1_", "1__0", "01", "0x", "0XF", "+0x1", "1.", ".5", "1e", "1e400", "1.e5", "Inf",
      "True", "9223372036854775808", "00.5", "-", "nil"].all
    (fun s => (ofWord? s.toList).isNone) = true := by decide +kernel

end Scalar

end CanaryMetrics.Toml
