namespace CanaryMetrics.Text

/-!
# Hexadecimal digits

* `hexDigit?` — what a digit stands for; letters may be small or capital.
* `hexNumber?` — the number that a text of digits spells.
* `hexChar` — the digit, with small letters, for a number below 16.
-/

/-- What a hexadecimal digit stands for. -/
def hexDigit? (c : Char) : Option Nat :=
  if '0' ≤ c ∧ c ≤ '9' then some (c.toNat - '0'.toNat)
  else if 'a' ≤ c ∧ c ≤ 'f' then some (c.toNat - 'a'.toNat + 10)
  else if 'A' ≤ c ∧ c ≤ 'F' then some (c.toNat - 'A'.toNat + 10)
  else none

/-- The number that a text of hexadecimal digits spells. -/
def hexNumber? (cs : List Char) : Option Nat :=
  cs.foldlM (fun n c => (hexDigit? c).map (16 * n + ·)) 0

/-- The hexadecimal digit of a number below 16. -/
def hexChar (n : Nat) : Char :=
  Nat.digitChar n

/-- The digit of a number stands for that number. -/
theorem hexDigit?_hexChar {n : Nat} (h : n < 16) : hexDigit? (hexChar n) = some n := by
  have : ∀ m : Fin 16, hexDigit? (hexChar m) = some m.val := by decide
  exact this ⟨n, h⟩

/-- Two digits spell any number below 256, and zeros in front of them make no difference. -/
theorem hexNumber?_two_digits {n : Nat} (h : n < 256) :
    hexNumber? ['0', '0', hexChar (n / 16), hexChar (n % 16)] = some n := by
  have hhigh : hexDigit? (hexChar (n / 16)) = some (n / 16) := hexDigit?_hexChar (by omega)
  have hlow : hexDigit? (hexChar (n % 16)) = some (n % 16) := hexDigit?_hexChar (by omega)
  have hzero : hexDigit? '0' = some 0 := by decide
  simp only [hexNumber?, List.foldlM_cons, List.foldlM_nil, hzero, hhigh, hlow, Option.map_some,
    Option.bind_eq_bind, Option.bind_some, Option.pure_def, Option.some.injEq]
  omega

/-! ### Unit test: both cases, and a letter beyond F -/

example : hexNumber? "00fF".toList = some 255 ∧ hexNumber? "0g".toList = none := by decide

end CanaryMetrics.Text
