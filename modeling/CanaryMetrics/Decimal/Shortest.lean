import CanaryMetrics.Decimal.Double

namespace CanaryMetrics.Decimal

/-!
# The shortest decimal text of a double

* `Double.shortest` — the number with the fewest digits that is read back as the double; of several
  the nearest, and of two equally near ones the one that a `Tie` chooses.
* `Style` — that choice, and how the digits are laid out: with a point among them, or with an exponent.
-/

/-- Which of two equally near numbers is taken. -/
inductive Tie
  /-- The one that is even. -/
  | toEven
  /-- The greater one. -/
  | up
deriving DecidableEq, Repr

/-- The natural number nearest to a fraction. -/
def Tie.round (num den : Nat) : Tie → Nat
  | toEven => roundHalfEven num den
  | up => (2 * num + den) / (2 * den)

/-- A natural number times a power of ten. -/
structure Scaled where
  /-- The digits, as a number. -/
  digits : Nat
  /-- The exponent of ten. -/
  exponent : Int
deriving DecidableEq, Repr

/-- The exponent of the greatest power of ten that is not above a positive fraction. -/
def floorLogTen (num den : Nat) : Int :=
  if den ≤ num then ((Nat.toDigits 10 (num / den)).length : Int) - 1
  else -((Nat.toDigits 10 ((den + num - 1) / num - 1)).length : Int)

namespace Double

/-- The lower end, the value and the upper end of the interval of numbers that round to a double, in
    quarters of its last place.  Below a power of two the places are half as wide. -/
def quarters (x : Double) : Nat × Nat × Nat :=
  let m := 4 * x.mantissa
  (if x.mantissa = leastNormal ∧ leastExponent < x.exponent then m - 1 else m - 2, m, m + 2)

/-- The better one of the two multiples of `10 ^ exponent` next to a double, if one of them is read
    back as the double.  The ends of the interval are read back when the mantissa is even. -/
def onGrid? (tie : Tie) (x : Double) (exponent : Int) : Option Nat :=
  let (low, value, high) := x.quarters
  -- a multiple `d` and `k` quarters compare like `d * step` and `k * quarter`
  let quarter := Nat.pow 2 (x.exponent - 2).toNat * Nat.pow 10 (-exponent).toNat
  let step := Nat.pow 2 (2 - x.exponent).toNat * Nat.pow 10 exponent.toNat
  let hits (d : Nat) : Bool :=
    if x.mantissa % 2 = 0 then low * quarter ≤ d * step && d * step ≤ high * quarter
    else low * quarter < d * step && d * step < high * quarter
  let below := value * quarter / step
  let nearer := tie.round (value * quarter) step
  let farther := if nearer = below then below + 1 else below
  if hits nearer then some nearer else if hits farther then some farther else none

/-- The shortest decimal number that is read back as a double; seventeen digits always suffice. -/
def shortest (tie : Tie) (x : Double) : Scaled :=
  if x.mantissa = 0 then ⟨0, 0⟩
  else
    let lead := floorLogTen x.fraction.1 x.fraction.2
    let found := (List.range 17).findSome? fun (n : Nat) =>
      (x.onGrid? tie (lead - n)).map fun d => (⟨d, lead - n⟩ : Scaled)
    found.getD ⟨x.mantissa, x.exponent⟩

end Double

/-! ### Layout -/

/-- How numbers are written.  Those that have no point among their digits have an exponent. -/
structure Style where
  /-- Which of two equally near numbers is written. -/
  tie : Tie
  /-- Is a number written with a point when its leading digit has this exponent of ten? -/
  positional : Int → Bool

/-- The significant digits of a number: no zeros at the end, but one for zero. -/
def significant (digits : Nat) : List Char :=
  match ((Nat.toDigits 10 digits).reverse.dropWhile (· = '0')).reverse with
  | [] => ['0']
  | ds => ds

/-- Digits with a point after the place of `10 ^ 0`, and at least one digit on each side of it. -/
def positionalText (ds : List Char) (lead : Int) : List Char :=
  if lead < 0 then "0.".toList ++ List.replicate (-lead - 1).toNat '0' ++ ds
  else
    let whole := lead.toNat + 1
    let tail := ds.drop whole
    (ds.take whole).rightpad whole '0' ++ '.' :: (if tail = [] then ['0'] else tail)

/-- Digits with a point after the first one, if there are more, and an exponent that always has a
    sign. -/
def exponentText (ds : List Char) (lead : Int) : List Char :=
  ds.take 1 ++ (if ds.length ≤ 1 then [] else '.' :: ds.drop 1)
    ++ 'e' :: (if lead < 0 then '-' else '+') :: Nat.toDigits 10 lead.natAbs

/-- The text of a double with its sign. -/
def Style.text (style : Style) (negative : Bool) (x : Double) : String :=
  let s := x.shortest style.tie
  let lead := s.exponent + (Nat.toDigits 10 s.digits).length - 1
  let ds := significant s.digits
  String.ofList <| (if negative then ['-'] else [])
    ++ if style.positional lead then positionalText ds lead else exponentText ds lead

/-! ### Unit test: both layouts, ties and the least double -/

/-- The text of the double nearest to a fraction, where exponents start at `10 ^ 16` and `10 ^ -6`. -/
private def sample (tie : Tie) (num den : Nat) : Option String :=
  (Double.nearest? num den).map (Style.text ⟨tie, fun lead => -5 ≤ lead && lead ≤ 15⟩ false)

example : [(60, 1), (121, 2), (1, 10), (1, 100000), (0, 1)].map (fun p => sample .toEven p.1 p.2)
    = ["60.0", "60.5", "0.1", "0.00001", "0.0"].map some := by
  decide +kernel

example : [(10 ^ 20, 1), (2 ^ 64, 1), (1, 10 ^ 6), (1, 2 ^ 44), (5, 10 ^ 324)].map (fun p => sample .toEven p.1 p.2)
    = ["1e+20", "1.8446744073709552e+19", "1e-6", "5.684341886080802e-14", "5e-324"].map some := by
  decide +kernel

example : [Tie.toEven, .up].map (fun tie => sample tie (2 ^ 52 + 1) 4)
    = ["1125899906842624.2", "1125899906842624.3"].map some := by
  decide +kernel

example : [Tie.toEven, .up].map (fun tie => sample tie (2 ^ 52 + 3) 4)
    = ["1125899906842624.8", "1125899906842624.8"].map some := by
  decide +kernel

end CanaryMetrics.Decimal
