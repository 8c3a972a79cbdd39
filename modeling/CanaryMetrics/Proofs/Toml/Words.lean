import CanaryMetrics.Proofs.Text.DigitRun
import CanaryMetrics.Toml.Syntax

namespace CanaryMetrics.Toml

open Text

/-!
# Written TOML words are read back

Truth values and integers are written as words, in which no blanks stand.

* `boolChars`, `integerChars` — the writing of both.
* `ValueEnd` — what may come after a written value.
* `readWord?_append` — a word is read as a whole when the end of a value follows it.
* `readWord?_boolChars`, `readWord?_integerChars` — so both are read as they were.
-/

/-! ### The end of a value -/

/-- After a value the text ends, or one of the marks follows that stand behind values. -/
def ValueEnd (cs : List Char) : Prop :=
  ∀ c ∈ cs.head?, c ∈ [',', ']', '}', '\n']

@[simp] theorem valueEnd_cons {c : Char} {cs : List Char} :
    ValueEnd (c :: cs) ↔ c ∈ [',', ']', '}', '\n'] := by
  simp [ValueEnd]

/-- A word is read as a whole when the end of a value follows it. -/
theorem readWord?_append {word rest : List Char} (hword : word.all Scalar.isWordChar = true)
    (hrest : ValueEnd rest) :
    readWord? (word ++ rest) = (Scalar.ofWord? word).map fun v => (v, rest) := by
  rw [List.all_eq_true] at hword
  have hends : ∀ c ∈ rest.head?, Scalar.isWordChar c = false := fun c hc =>
    Bool.eq_false_iff.2 fun hchar => ne_of_all_not (by decide) hchar c (hrest c hc) rfl
  unfold readWord?
  rw [takeWhile_run_append hword hends, dropWhile_run_append hword hends]
  -- a date could be prolonged, but by a blank only
  dsimp only
  split
  · exact absurd (hrest ' ' rfl) (by decide)
  · rfl

/-! ### Truth values -/

/-- A truth value as it is written. -/
def boolChars (b : Bool) : List Char :=
  if b then ['t', 'r', 'u', 'e'] else ['f', 'a', 'l', 's', 'e']

theorem readWord?_boolChars (b : Bool) {rest : List Char} (hrest : ValueEnd rest) :
    readWord? (boolChars b ++ rest) = some (.bool b, rest) := by
  cases b with
  | true => exact readWord?_append (by decide) hrest
  | false => exact readWord?_append (by decide) hrest

/-! ### Integers -/

/-- An integer as it is written. -/
def integerChars (n : Int) : List Char :=
  (if n < 0 then ['-'] else []) ++ Nat.toDigits 10 n.natAbs

/-- The digits of a number are digits. -/
theorem isDigit_of_mem_toDigits {n : Nat} {c : Char} (h : c ∈ Nat.toDigits 10 n) :
    c.isDigit = true :=
  Nat.isDigit_of_mem_toDigits (by decide) (by decide) h

/-- A written integer begins with its sign or with a digit, and digits follow. -/
theorem exists_integerChars_eq_cons (n : Int) :
    ∃ c cs, integerChars n = c :: cs ∧ (c = '-' ∨ c.isDigit = true) ∧
      ∀ d ∈ cs, d.isDigit = true := by
  have hdigits : ∀ c ∈ Nat.toDigits 10 n.natAbs, c.isDigit = true := fun c hc =>
    isDigit_of_mem_toDigits hc
  by_cases hneg : n < 0
  · refine ⟨'-', Nat.toDigits 10 n.natAbs, ?_, .inl rfl, hdigits⟩
    rw [integerChars, if_pos hneg, List.singleton_append]
  · have hne : Nat.toDigits 10 n.natAbs ≠ [] := Nat.toDigits_ne_nil
    obtain ⟨d, ds, hcons⟩ := List.exists_cons_of_ne_nil hne
    rw [hcons] at hdigits
    refine ⟨d, ds, ?_, .inr (hdigits d List.mem_cons_self), ?_⟩
    · rw [integerChars, if_neg hneg, List.nil_append, hcons]
    · exact fun c hc => hdigits c (List.mem_cons_of_mem _ hc)

theorem isWordChar_of_isDigit {c : Char} (h : c.isDigit = true) : Scalar.isWordChar c = true := by
  simp [Scalar.isWordChar, Char.isAlphanum, h]

/-- A written integer is a word. -/
theorem all_isWordChar_integerChars (n : Int) : (integerChars n).all Scalar.isWordChar = true := by
  obtain ⟨c, cs, hcons, hc, hcs⟩ := exists_integerChars_eq_cons n
  rw [hcons, List.all_cons, Bool.and_eq_true, List.all_eq_true]
  refine ⟨?_, fun d hd => isWordChar_of_isDigit (hcs d hd)⟩
  rcases hc with rfl | hdigit
  · decide
  · exact isWordChar_of_isDigit hdigit

/-- So it begins with a character of words. -/
theorem exists_integerChars_eq_cons_isWordChar (n : Int) :
    ∃ c cs, integerChars n = c :: cs ∧ Scalar.isWordChar c = true := by
  obtain ⟨c, cs, hcons, -⟩ := exists_integerChars_eq_cons n
  have hall := all_isWordChar_integerChars n
  rw [hcons, List.all_cons, Bool.and_eq_true] at hall
  exact ⟨c, cs, hcons, hall.1⟩

namespace Scalar

/-- Digits without underscores stay as they are. -/
theorem ungroup?_digits {ds : List Char} (h : ∀ c ∈ ds, c.isDigit = true) (hne : ds ≠ []) :
    ungroup? Char.isDigit ds = some ds := by
  induction ds with
  | nil => exact absurd rfl hne
  | cons c ds ih =>
    have hc : c.isDigit = true := h c List.mem_cons_self
    cases ds with
    | nil => rw [ungroup?, if_pos hc]
    | cons d ds =>
      have hd : d.isDigit = true := h d (by simp)
      -- underscores may stand between digits, but here there are none
      have hunderscore : d ≠ '_' := ne_of_isDigit hd rfl
      rw [ungroup?, if_pos hc, ih (fun e he => h e (List.mem_cons_of_mem _ he)) (by simp)]
      · rfl
      · exact List.cons_ne_nil d ds
      · exact fun _ heq => absurd (List.cons.inj heq).1 hunderscore

/-- The digits of a number spell it. -/
theorem ofDigits_eq_ofDigitChars {ds : List Char} (h : ∀ c ∈ ds, c.isDigit = true) (init : Nat) :
    ds.foldl (fun n c => 10 * n + (hexDigit? c).getD 0) init = Nat.ofDigitChars 10 ds init := by
  induction ds generalizing init with
  | nil => rfl
  | cons c ds ih =>
    have hc : c.isDigit = true := h c List.mem_cons_self
    have hdigit : hexDigit? c = some (c.toNat - '0'.toNat) := by
      simp only [Char.isDigit, Bool.and_eq_true, decide_eq_true_eq] at hc
      exact if_pos hc
    rw [List.foldl_cons, Nat.ofDigitChars_cons, hdigit, Option.getD_some,
      ih fun e he => h e (List.mem_cons_of_mem _ he)]

theorem ofDigits_toDigits (n : Nat) : ofDigits 10 (Nat.toDigits 10 n) = n := by
  rw [ofDigits, ofDigits_eq_ofDigitChars fun c hc => isDigit_of_mem_toDigits hc,
    Nat.ofDigitChars_ten_toDigits]

theorem wholeDigits?_toDigits (n : Nat) :
    wholeDigits? (Nat.toDigits 10 n) = some (Nat.toDigits 10 n) := by
  rw [wholeDigits?, ungroup?_digits (fun c hc => isDigit_of_mem_toDigits hc) Nat.toDigits_ne_nil]
  show (if _ then _ else _) = _
  rw [if_neg fun h => h.2 (toDigits_eq_zero h.1)]
  rfl

/-- An integer has 64 bits. -/
def Fits (n : Int) : Prop :=
  -9223372036854775808 ≤ n ∧ n ≤ 9223372036854775807

/-- A written integer is read as that integer, if it has 64 bits. -/
theorem decimalInteger?_integerChars {n : Int} (hn : Fits n) :
    decimalInteger? (integerChars n) = some (.integer n) := by
  have hword : word? n = some (.integer n) := if_pos hn
  have hsign : dropSign (integerChars n) = (decide (n < 0), Nat.toDigits 10 n.natAbs) := by
    by_cases hneg : n < 0
    · rw [integerChars, if_pos hneg, decide_eq_true hneg]
      rfl
    · -- the first digit is no sign
      have hdigit : ∀ c cs, Nat.toDigits 10 n.natAbs = c :: cs → c.isDigit = true := fun c cs h =>
        isDigit_of_mem_toDigits (h ▸ List.mem_cons_self)
      rw [integerChars, if_neg hneg, decide_eq_false hneg, List.nil_append, dropSign]
      · exact fun cs h => absurd (hdigit _ _ h) (by decide)
      · exact fun cs h => absurd (hdigit _ _ h) (by decide)
  have hvalue : (if decide (n < 0) then -(n.natAbs : Int) else n.natAbs) = n := by
    by_cases hneg : n < 0
    · rw [if_pos (decide_eq_true hneg)]
      omega
    · rw [if_neg (by simpa using hneg)]
      omega
  rw [decimalInteger?, hsign]
  simp only [wholeDigits?_toDigits, ofDigits_toDigits, Option.bind_eq_bind, Option.bind_some, hvalue,
    hword]

end Scalar

/-! ### Integers are no dates -/

namespace DateTime

/-- What follows two digits is a part of the text. -/
theorem mem_of_twoDigits? {high n : Nat} {cs rest : List Char}
    (h : twoDigits? high cs = some (n, rest)) {c : Char} (hc : c ∈ rest) : c ∈ cs := by
  unfold twoDigits? at h
  dsimp only at h
  split at h
  · split at h
    · cases h
      exact List.mem_cons_of_mem _ (List.mem_cons_of_mem _ hc)
    · cases h
  · cases h

theorem twoDigits?_minus (high : Nat) (cs : List Char) : twoDigits? high ('-' :: cs) = none := by
  cases cs with
  | nil => rfl
  | cons c cs =>
    rw [twoDigits?]
    exact if_neg fun h => absurd h.1 (by decide)

theorem expect?_of_not_mem {c : Char} {cs : List Char} (h : c ∉ cs) : expect? c cs = none := by
  cases cs with
  | nil => rfl
  | cons d cs =>
    rw [expect?, if_neg]
    rintro rfl
    exact h List.mem_cons_self

/-- A date needs a hyphen behind its year. -/
theorem readDate?_of_not_mem {cs : List Char} (h : '-' ∉ cs) : readDate? cs = none := by
  refine Option.bind_eq_none_iff.2 fun ⟨century, afterCentury⟩ hcentury => ?_
  refine Option.bind_eq_none_iff.2 fun ⟨year, afterYear⟩ hyear => ?_
  have hminus : '-' ∉ afterYear := fun hmem =>
    h (mem_of_twoDigits? hcentury (mem_of_twoDigits? hyear hmem))
  show (expect? '-' afterYear).bind _ = none
  rw [expect?_of_not_mem hminus, Option.bind_none]

/-- A time needs a colon behind its hour. -/
theorem readTime?_of_not_mem {cs : List Char} (h : ':' ∉ cs) : readTime? cs = none := by
  refine Option.bind_eq_none_iff.2 fun ⟨hour, afterHour⟩ hhour => ?_
  have hcolon : ':' ∉ afterHour := fun hmem => h (mem_of_twoDigits? hhour hmem)
  show (expect? ':' afterHour).bind _ = none
  rw [expect?_of_not_mem hcolon, Option.bind_none]

/-- A written integer is no date and no time. -/
theorem ofChars?_integerChars (n : Int) : ofChars? (integerChars n) = none := by
  have hdigits : ∀ c ∈ Nat.toDigits 10 n.natAbs, c.isDigit = true := fun c hc =>
    isDigit_of_mem_toDigits hc
  -- a date needs a hyphen behind its year and a time needs a colon, which no integer has
  have hdate : readDate? (integerChars n) = none := by
    by_cases hneg : n < 0
    · rw [integerChars, if_pos hneg, List.singleton_append, readDate?, twoDigits?_minus]
      rfl
    · rw [integerChars, if_neg hneg, List.nil_append]
      exact readDate?_of_not_mem fun hmem => absurd (hdigits _ hmem) (by decide)
  have htime : readTime? (integerChars n) = none := by
    refine readTime?_of_not_mem fun hmem => ?_
    rcases List.mem_append.1 hmem with hsign | hdigit
    · split at hsign <;> simp at hsign
    · exact absurd (hdigits _ hdigit) (by decide)
  rw [ofChars?, hdate, htime]

end DateTime

/-- A written integer is a word for that integer, if it has 64 bits. -/
theorem ofWord?_integerChars {n : Int} (hn : Scalar.Fits n) :
    Scalar.ofWord? (integerChars n) = some (.integer n) := by
  obtain ⟨c, cs, hcons, hc, hcs⟩ := exists_integerChars_eq_cons n
  have hinteger := Scalar.decimalInteger?_integerChars hn
  have hdate := DateTime.ofChars?_integerChars n
  rw [hcons] at hinteger hdate ⊢
  have htrue : c ≠ 't' := by
    rintro rfl
    revert hc; decide
  have hfalse : c ≠ 'f' := by
    rintro rfl
    revert hc; decide
  -- no letter follows that names another base
  have hbase : ∀ d ∈ ['x', 'o', 'b'], ∀ ds, cs ≠ d :: ds := by
    rintro d hd ds rfl
    have hdigit : d.isDigit = true := hcs d List.mem_cons_self
    exact ne_of_all_not (by decide) hdigit d hd rfl
  have hnumber : Scalar.number? (c :: cs) = some (.integer n) := by
    rw [Scalar.number?, hinteger]
    · rintro ds ⟨-, rfl⟩
      exact hbase 'x' (by decide) ds rfl
    · rintro ds ⟨-, rfl⟩
      exact hbase 'o' (by decide) ds rfl
    · rintro ds ⟨-, rfl⟩
      exact hbase 'b' (by decide) ds rfl
  rw [Scalar.ofWord?, if_neg (fun h => htrue (List.cons.inj h).1),
    if_neg (fun h => hfalse (List.cons.inj h).1), hdate, hnumber]

theorem readWord?_integerChars {n : Int} (hn : Scalar.Fits n) {rest : List Char}
    (hrest : ValueEnd rest) :
    readWord? (integerChars n ++ rest) = some (.integer n, rest) := by
  rw [readWord?_append (all_isWordChar_integerChars n) hrest, ofWord?_integerChars hn, Option.map_some]

end CanaryMetrics.Toml
