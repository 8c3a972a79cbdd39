import CanaryMetrics.Json.Numeral
import CanaryMetrics.Proofs.Text.DigitRun

namespace CanaryMetrics.Json.Numeral

open Text

/-!
# Numerals and their texts

* `Proper` — the digits of a numeral are digits, and stand where there must be some.
* `NumeralEnd` — nothing that comes next prolongs a numeral.
* `NumeralText`, `numeralText_chars` — the texts of a numeral, of which the written one is the shortest.
* `NumeralText.scan?_append`, `exists_numeralText_of_scan?` — these texts are scanned as the numeral when
  nothing prolongs them, and no others are.
* `proper_ofNat`, `value_ofNat` — the numeral of a natural number is proper, and stands for the
  number as long as 64 bits hold it.
* `ofInt`, `proper_ofInt`, `value_ofInt` — the same for integers.
-/

/-- A numeral as it can be spelled. -/
structure Proper (n : Numeral) : Prop where
  /-- There are digits before the point. -/
  whole_ne_nil : n.whole ≠ []
  /-- They are digits. -/
  isDigit_whole : ∀ c ∈ n.whole, c.isDigit = true
  /-- A zero leads only when it stands alone. -/
  whole_eq_zero : n.whole.head? = some '0' → n.whole = ['0']
  /-- The digits after the point are digits. -/
  isDigit_fraction : ∀ c ∈ n.fraction, c.isDigit = true
  /-- There are digits in an exponent. -/
  exponent_ne_nil : ∀ e ∈ n.exponent, e.2 ≠ []
  /-- They are digits. -/
  isDigit_exponent : ∀ e ∈ n.exponent, ∀ c ∈ e.2, c.isDigit = true

/-- Nothing that comes next prolongs a numeral: no digit, no point and no exponent. -/
def NumeralEnd (cs : List Char) : Prop :=
  ∀ c ∈ cs.head?, c.isDigit = false ∧ c ≠ '.' ∧ c ≠ 'e' ∧ c ≠ 'E'

@[simp] theorem numeralEnd_nil : NumeralEnd [] := by
  intro c hc; cases hc

@[simp] theorem numeralEnd_cons {c : Char} {cs : List Char} :
    NumeralEnd (c :: cs) ↔ c.isDigit = false ∧ c ≠ '.' ∧ c ≠ 'e' ∧ c ≠ 'E' := by
  simp [NumeralEnd]

/-! ### The texts of a numeral -/

/-- The point and the digits after it, if there are any. -/
def fractionChars (ds : List Char) : List Char :=
  if ds = [] then [] else '.' :: ds

/-- The exponent, if there is one. -/
def exponentChars : Option (Bool × List Char) → List Char
  | none => []
  | some (negative, ds) => 'e' :: (if negative then ['-'] else []) ++ ds

/-- The sign of an exponent, which is a plus sign if there is none. -/
inductive SignText : List Char → Bool → Prop
  /-- No sign. -/
  | missing : SignText [] false
  /-- A plus sign. -/
  | plus : SignText ['+'] false
  /-- A minus sign. -/
  | minus : SignText ['-'] true

/-- An exponent, if there is one. -/
inductive ExponentText : List Char → Option (Bool × List Char) → Prop
  /-- No exponent. -/
  | missing : ExponentText [] none
  /-- A letter, small or capital, a sign and digits. -/
  | power {c : Char} {sign : List Char} {negative : Bool} (ds : List Char) (hc : c ∈ ['e', 'E'])
    (hsign : SignText sign negative) : ExponentText (c :: (sign ++ ds)) (some (negative, ds))

/-- A numeral: a minus sign if it is negative, the digits before the point, a fraction and an exponent. -/
inductive NumeralText : List Char → Numeral → Prop
  /-- The parts. -/
  | intro {n : Numeral} {exponent : List Char} (h : n.Proper)
    (hexponent : ExponentText exponent n.exponent) :
    NumeralText ((if n.negative then ['-'] else [])
      ++ (n.whole ++ (fractionChars n.fraction ++ exponent))) n

/-- What is written of an exponent is a text of it. -/
theorem exponentText_exponentChars (e : Option (Bool × List Char)) : ExponentText (exponentChars e) e := by
  rcases e with _ | ⟨_ | _, ds⟩
  · exact .missing
  · exact .power ds List.mem_cons_self .missing
  · exact .power ds List.mem_cons_self .minus

/-- What is written of a proper numeral is a text of it. -/
theorem numeralText_chars {n : Numeral} (h : n.Proper) : NumeralText n.chars n := by
  have hchars : n.chars = (if n.negative then ['-'] else [])
      ++ (n.whole ++ (fractionChars n.fraction ++ exponentChars n.exponent)) := by
    obtain ⟨negative, whole, fraction, exponent⟩ := n
    cases exponent with
    | none => simp [chars, fractionChars, exponentChars]
    | some e => simp [chars, fractionChars, exponentChars]
  rw [hchars]
  exact .intro h (exponentText_exponentChars _)

/-- What a numeral starts with is a digit or a minus sign. -/
theorem NumeralText.exists_eq_cons {cs : List Char} {n : Numeral} (h : NumeralText cs n) :
    ∃ c ds, cs = c :: ds ∧ (c.isDigit = true ∨ c = '-') := by
  obtain ⟨h, -⟩ := h
  obtain ⟨d, ds, hwhole⟩ := List.exists_cons_of_ne_nil h.whole_ne_nil
  have hd : d.isDigit = true := h.isDigit_whole d (hwhole ▸ List.mem_cons_self)
  rw [hwhole]
  cases n.negative with
  | true => exact ⟨'-', _, rfl, .inr rfl⟩
  | false => exact ⟨d, _, rfl, .inl hd⟩

/-! ### The parts of a numeral -/

variable {cs ds rest : List Char}

/-- What no numeral goes on with starts with no digit. -/
theorem NumeralEnd.noDigitFirst (h : NumeralEnd cs) : NoDigitFirst cs :=
  fun c hc => (h c hc).1

/-- Digits are scanned up to the first character that is none. -/
theorem scanDigits?_eq_some_iff : scanDigits? cs = some (ds, rest) ↔
    cs = ds ++ rest ∧ ds ≠ [] ∧ (∀ c ∈ ds, c.isDigit = true) ∧ NoDigitFirst rest := by
  unfold scanDigits?
  simp only [Option.ite_none_left_eq_some, Option.some.injEq, Prod.mk.injEq]
  constructor
  · rintro ⟨hne, rfl, rfl⟩
    refine ⟨List.takeWhile_append_dropWhile.symm, hne, List.all_eq_true.1 List.all_takeWhile, ?_⟩
    -- the digits are all taken, so that none is left at the front
    intro c hc
    have hhead := List.head?_dropWhile_not Char.isDigit cs
    rw [hc] at hhead
    exact hhead
  · rintro ⟨rfl, hne, hds, hrest⟩
    rw [takeWhile_isDigit_append hds hrest, dropWhile_isDigit_append hds hrest]
    exact ⟨hne, rfl, rfl⟩

/-- No exponent starts with a digit or with a point. -/
theorem ExponentText.head?_append {e : Option (Bool × List Char)} (h : ExponentText cs e)
    (hrest : NumeralEnd rest) : ∀ c ∈ (cs ++ rest).head?, c.isDigit = false ∧ c ≠ '.' := by
  intro c hc
  cases h with
  | missing => exact ⟨(hrest c hc).1, (hrest c hc).2.1⟩
  | power ds hletter =>
    cases hc
    simp only [List.mem_cons, List.not_mem_nil, or_false] at hletter
    rcases hletter with rfl | rfl <;> decide

/-- No fraction starts with a digit. -/
theorem noDigitFirst_fractionChars_append (h : NoDigitFirst rest) (ds : List Char) :
    NoDigitFirst (fractionChars ds ++ rest) := by
  unfold fractionChars
  split
  · exact h
  · exact noDigitFirst_cons.2 (by decide)

/-- The sign of an exponent is scanned up to its first digit. -/
theorem SignText.scanSign_append {negative : Bool} (h : SignText cs negative) (hne : ds ≠ [])
    (hds : ∀ c ∈ ds, c.isDigit = true) (rest : List Char) :
    scanSign (cs ++ (ds ++ rest)) = (negative, ds ++ rest) := by
  cases h with
  | plus | minus => rfl
  | missing =>
    -- the first digit is no sign
    obtain ⟨d, ds', rfl⟩ := List.exists_cons_of_ne_nil hne
    have hd : d.isDigit = true := hds d List.mem_cons_self
    show scanSign (d :: (ds' ++ rest)) = (false, d :: (ds' ++ rest))
    rw [scanSign]
    · exact fun _ hminus => absurd (List.cons.inj hminus).1 (ne_of_isDigit hd rfl)
    · exact fun _ hplus => absurd (List.cons.inj hplus).1 (ne_of_isDigit hd rfl)

/-- A sign is what is scanned as one. -/
theorem exists_signText_of_scanSign (cs : List Char) :
    ∃ sign, cs = sign ++ (scanSign cs).2 ∧ SignText sign (scanSign cs).1 := by
  unfold scanSign
  split
  · exact ⟨['-'], rfl, .minus⟩
  · exact ⟨['+'], rfl, .plus⟩
  · exact ⟨[], rfl, .missing⟩

/-- An exponent is scanned when nothing prolongs it. -/
theorem ExponentText.scanExponent?_append {e : Option (Bool × List Char)} (h : ExponentText cs e)
    (hne : ∀ p ∈ e, p.2 ≠ []) (hds : ∀ p ∈ e, ∀ c ∈ p.2, c.isDigit = true)
    (hrest : NumeralEnd rest) : scanExponent? (cs ++ rest) = some (e, rest) := by
  cases h with
  | missing =>
    cases rest with
    | nil => rfl
    | cons c rest =>
      -- what follows a numeral begins with no `e` that could be taken for an exponent
      obtain ⟨-, -, hsmall, hcapital⟩ := numeralEnd_cons.1 hrest
      show scanExponent? (c :: rest) = _
      rw [scanExponent?, if_neg (not_or.2 ⟨hsmall, hcapital⟩)]
  | power ds hletter hsign =>
    have hscan : scanDigits? (ds ++ rest) = some (ds, rest) :=
      scanDigits?_eq_some_iff.2 ⟨rfl, hne _ rfl, hds _ rfl, hrest.noDigitFirst⟩
    rw [List.cons_append, scanExponent?, if_pos (by simpa using hletter), List.append_assoc,
      hsign.scanSign_append (hne _ rfl) (hds _ rfl)]
    simp only [hscan, Option.bind_eq_bind, Option.bind_some, Option.pure_def]

/-- An exponent is what is scanned as one. -/
theorem exists_exponentText_of_scanExponent? {e : Option (Bool × List Char)}
    (h : scanExponent? cs = some (e, rest)) :
    ∃ exponent, cs = exponent ++ rest ∧ ExponentText exponent e ∧
      (∀ p ∈ e, p.2 ≠ [] ∧ ∀ c ∈ p.2, c.isDigit = true) ∧ (NoDigitFirst cs → NoDigitFirst rest) := by
  unfold scanExponent? at h
  split at h
  · cases h
    exact ⟨[], rfl, .missing, fun p hp => (by cases hp), id⟩
  · rename_i c cs
    split at h
    · -- behind the letter digits must follow, with or without a sign
      rename_i hletter
      simp only [Option.bind_eq_bind, Option.bind_eq_some_iff, Option.pure_def, Option.some.injEq,
        Prod.mk.injEq, Prod.exists] at h
      obtain ⟨ds, r, hscan, rfl, rfl⟩ := h
      obtain ⟨hcs, hne, hds, hrest⟩ := scanDigits?_eq_some_iff.1 hscan
      obtain ⟨sign, hsign, htext⟩ := exists_signText_of_scanSign cs
      refine ⟨c :: (sign ++ ds), ?_, .power ds (by simpa using hletter) htext, ?_, fun _ => hrest⟩
      · rw [List.cons_append, List.append_assoc, ← hcs, ← hsign]
      · rintro p ⟨⟩
        exact ⟨hne, hds⟩
    · cases h
      exact ⟨[], rfl, .missing, fun p hp => (by cases hp), id⟩

/-- A fraction is scanned when neither a digit nor a point follows. -/
theorem scanFraction?_append (hds : ∀ c ∈ ds, c.isDigit = true)
    (hrest : ∀ c ∈ rest.head?, c.isDigit = false ∧ c ≠ '.') :
    scanFraction? (fractionChars ds ++ rest) = some (ds, rest) := by
  unfold fractionChars
  -- without digits there is no point either, and then none may follow
  by_cases hne : ds = []
  · rw [if_pos hne, List.nil_append, hne]
    unfold scanFraction?
    split
    · exact absurd rfl (hrest '.' rfl).2
    · rfl
  · rw [if_neg hne, List.cons_append, scanFraction?]
    exact scanDigits?_eq_some_iff.2 ⟨rfl, hne, hds, fun c hc => (hrest c hc).1⟩

/-- A fraction is what is scanned as one. -/
theorem eq_append_of_scanFraction? (h : scanFraction? cs = some (ds, rest)) :
    cs = fractionChars ds ++ rest ∧ (∀ c ∈ ds, c.isDigit = true) ∧
      (NoDigitFirst cs → NoDigitFirst rest) := by
  unfold scanFraction? at h
  split at h
  · obtain ⟨rfl, hne, hds, hrest⟩ := scanDigits?_eq_some_iff.1 h
    refine ⟨?_, hds, fun _ => hrest⟩
    rw [fractionChars, if_neg hne]
    rfl
  · cases h
    exact ⟨rfl, fun c hc => (by cases hc), id⟩

/-! ### The whole numeral -/

variable {n : Numeral}

/-- A numeral without its sign is scanned when nothing prolongs it. -/
theorem scanUnsigned?_append (h : n.Proper) {exponent : List Char}
    (hexponent : ExponentText exponent n.exponent) (hrest : NumeralEnd rest) :
    scanUnsigned? n.negative (n.whole ++ (fractionChars n.fraction ++ (exponent ++ rest)))
      = some (n, rest) := by
  have hzero : ¬ (n.whole.head? = some '0' ∧ n.whole ≠ ['0']) := by
    rintro ⟨hhead, hne⟩
    exact hne (h.whole_eq_zero hhead)
  -- each part ends where the next one begins: no digit or point comes first in what follows it
  have hhead := hexponent.head?_append hrest
  have hwhole : scanDigits? (n.whole ++ (fractionChars n.fraction ++ (exponent ++ rest)))
      = some (n.whole, fractionChars n.fraction ++ (exponent ++ rest)) :=
    scanDigits?_eq_some_iff.2 ⟨rfl, h.whole_ne_nil, h.isDigit_whole,
      noDigitFirst_fractionChars_append (fun c hc => (hhead c hc).1) _⟩
  unfold scanUnsigned?
  simp only [hwhole, Option.bind_eq_bind, Option.bind_some, if_neg hzero, Option.pure_def,
    scanFraction?_append h.isDigit_fraction hhead,
    hexponent.scanExponent?_append h.exponent_ne_nil h.isDigit_exponent hrest]

/-- What is scanned as a numeral without its sign. -/
theorem exists_exponentText_of_scanUnsigned? {negative : Bool}
    (h : scanUnsigned? negative cs = some (n, rest)) :
    n.negative = negative ∧ n.Proper ∧ NoDigitFirst rest ∧ ∃ exponent,
      ExponentText exponent n.exponent ∧
        cs = n.whole ++ (fractionChars n.fraction ++ (exponent ++ rest)) := by
  unfold scanUnsigned? at h
  simp only [Option.bind_eq_bind, Option.bind_eq_some_iff, Option.pure_def, Option.some.injEq,
    Prod.mk.injEq, Prod.exists, Option.ite_none_left_eq_some] at h
  obtain ⟨whole, r, hwhole, hzero, fraction, r', hfraction, e, r'', hexponent, rfl, rfl⟩ := h
  -- from left to right, each part off what is left by the one before
  obtain ⟨rfl, hne, hds, hr⟩ := scanDigits?_eq_some_iff.1 hwhole
  obtain ⟨rfl, hds', hr'⟩ := eq_append_of_scanFraction? hfraction
  obtain ⟨exponent, rfl, htext, he, hr''⟩ := exists_exponentText_of_scanExponent? hexponent
  have hproper : Proper ⟨negative, whole, fraction, e⟩ :=
    { whole_ne_nil := hne
      isDigit_whole := hds
      whole_eq_zero := fun hhead => Decidable.not_not.1 fun hne => hzero ⟨hhead, hne⟩
      isDigit_fraction := hds'
      exponent_ne_nil := fun p hp => (he p hp).1
      isDigit_exponent := fun p hp => (he p hp).2 }
  exact ⟨rfl, hproper, hr'' (hr' hr), exponent, htext, rfl⟩

/-- **Numerals are scanned.**  A text of a numeral is scanned as that numeral when nothing prolongs it. -/
theorem NumeralText.scan?_append (h : NumeralText cs n) (hrest : NumeralEnd rest) :
    scan? (cs ++ rest) = some (n, rest) := by
  obtain ⟨h, hexponent⟩ := h
  have hunsigned := scanUnsigned?_append h hexponent hrest
  rw [List.append_assoc, List.append_assoc, List.append_assoc]
  -- what comes first decides on the sign: a minus sign or the first digit
  cases hnegative : n.negative with
  | true =>
    rw [hnegative] at hunsigned
    exact hunsigned
  | false =>
    rw [hnegative] at hunsigned
    obtain ⟨d, ds, hwhole⟩ := List.exists_cons_of_ne_nil h.whole_ne_nil
    have hd : d.isDigit = true := h.isDigit_whole d (hwhole ▸ List.mem_cons_self)
    rw [hwhole] at hunsigned ⊢
    show scan? (d :: (ds ++ (fractionChars n.fraction ++ (_ ++ rest)))) = _
    rw [scan?]
    · exact hunsigned
    · exact fun _ hminus => absurd (List.cons.inj hminus).1 (ne_of_isDigit hd rfl)

/-- Only texts of numerals are scanned, and all digits that follow each other are taken. -/
theorem exists_numeralText_of_scan? (h : scan? cs = some (n, rest)) :
    ∃ text, cs = text ++ rest ∧ NumeralText text n ∧ NoDigitFirst rest := by
  have hparts : ∀ negative cs, scanUnsigned? negative cs = some (n, rest) →
      ∃ text, (if negative then ['-'] else []) ++ cs = text ++ rest ∧ NumeralText text n ∧
        NoDigitFirst rest := by
    intro negative cs h
    obtain ⟨rfl, hproper, hrest, exponent, hexponent, rfl⟩ := exists_exponentText_of_scanUnsigned? h
    exact ⟨_, by simp only [List.append_assoc], .intro hproper hexponent, hrest⟩
  unfold scan? at h
  split at h
  · exact hparts true _ h
  · exact hparts false _ h

/-! ### Integers -/

/-- The numeral of an integer. -/
def ofInt (n : Int) : Numeral :=
  ⟨n < 0, Nat.toDigits 10 n.natAbs, [], none⟩

/-- A numeral with the digits of a number before the point, and nothing else, is proper. -/
theorem proper_toDigits (negative : Bool) (n : Nat) :
    (⟨negative, Nat.toDigits 10 n, [], none⟩ : Numeral).Proper where
  whole_ne_nil := Nat.toDigits_ne_nil
  isDigit_whole := fun c hc => Nat.isDigit_of_mem_toDigits (by decide) (by decide) hc
  whole_eq_zero := toDigits_eq_zero
  isDigit_fraction := fun c hc => by cases hc
  exponent_ne_nil := fun e he => by cases he
  isDigit_exponent := fun e he => by cases he

/-- The numeral of a natural number is proper. -/
theorem proper_ofNat (n : Nat) : (ofNat n).Proper :=
  proper_toDigits false n

theorem proper_ofInt (n : Int) : (ofInt n).Proper :=
  proper_toDigits _ n.natAbs

/-- The numeral of a natural number that 64 bits hold stands for that number. -/
theorem value_ofNat {n : Nat} (h : n < UInt64.size) : (ofNat n).value = .integer n := by
  have hinteger : (ofNat n).integer? = some (n : Int) := by
    unfold integer? ofNat
    simp only [Nat.ofDigitChars_ten_toDigits]
    rw [if_pos ⟨trivial, trivial⟩, if_neg (by decide), if_pos h]
  unfold value
  rw [hinteger]

/-- The numeral of an integer that 64 bits hold stands for that integer. -/
theorem value_ofInt {n : Int} (hmin : -9223372036854775808 ≤ n) (hmax : n < UInt64.size) :
    (ofInt n).value = .integer n := by
  by_cases hneg : n < 0
  · have hinteger : (ofInt n).integer? = some n := by
      have habs : 0 < n.natAbs ∧ n.natAbs ≤ 9223372036854775808 := by omega
      -- the numeral has a sign and a natural number, which is the absolute value
      have hn : -(n.natAbs : Int) = n := by omega
      unfold integer? ofInt
      simp only [Nat.ofDigitChars_ten_toDigits]
      rw [if_pos ⟨trivial, trivial⟩, if_pos (decide_eq_true hneg), if_pos habs, hn]
    unfold value
    rw [hinteger]
  · -- without a sign it is the numeral of a natural number
    obtain ⟨k, rfl⟩ := Int.eq_ofNat_of_zero_le (Int.not_lt.1 hneg)
    have hnat : ofInt k = ofNat k := by
      rw [ofInt, ofNat, decide_eq_false hneg, Int.natAbs_natCast]
    rw [hnat, value_ofNat (Int.ofNat_lt.1 hmax)]

end CanaryMetrics.Json.Numeral
