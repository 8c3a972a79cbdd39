import CanaryMetrics.Proofs.Datum.Offences

namespace CanaryMetrics.Datum

/-!
# What a datum must be to be read

* `readStrings_eq_ok_iff`, `readStringMap_eq_ok_iff`, `readInstant_eq_ok_iff`, `readWord_eq_ok_iff` — the
  data that are read as a value of a type.
* `NoInstant`, `NoWord` — why a datum is not read as an instant or as a word.
* `readOptional_eq_ok_iff` — an optional value is none, or one that is read.
-/

variable {d : Datum} {e : ReadError}

/-! ### Strings -/

theorem readStrings_eq_ok_iff {items : List String} :
    d.readStrings = .ok items ↔ d = sequence (items.map string) := by
  constructor
  · intro h
    cases d with
    | sequence data => rw [(mapM_eq_ok_iff_eq_map fun _ _ => readString_eq_ok_iff).1 h]
    | _ => cases h
  · rintro rfl
    exact readStrings_sequence_map items

theorem readPair_eq_ok_iff {m : Option String × Datum} {pair : String × String} :
    readPair m = .ok pair ↔ m = (some pair.1, string pair.2) := by
  constructor
  · intro h
    obtain ⟨key, s, rfl⟩ := exists_readPair_eq_ok_iff.1 ⟨pair, h⟩
    cases h
    rfl
  · rintro rfl
    rfl

/-- A map of strings is read as the map of its pairs, in their order. -/
theorem readStringMap_eq_ok_iff {m : StringMap} :
    d.readStringMap = .ok m ↔ ∃ pairs : List (String × String),
      d = map (pairs.map fun p => (some p.1, string p.2)) ∧ StringMap.ofList pairs = m := by
  constructor
  · intro h
    cases d with
    | map members =>
      -- each member is read by itself, so the members are the pairs again
      obtain ⟨pairs, hpairs, rfl⟩ := map_eq_ok_iff.1 h
      exact ⟨pairs, by rw [(mapM_eq_ok_iff_eq_map fun _ _ => readPair_eq_ok_iff).1 hpairs], rfl⟩
    | _ => cases h
  · rintro ⟨pairs, rfl, rfl⟩
    exact map_eq_ok_iff.2 ⟨pairs, (mapM_eq_ok_iff_eq_map fun _ _ => readPair_eq_ok_iff).2 rfl, rfl⟩

/-! ### Instants -/

theorem readInstant_eq_ok_iff {t : Instant} :
    d.readInstant = .ok t ↔ ∃ s, d = string s ∧ Instant.ofText s = .ok t := by
  constructor
  · intro h
    cases d with
    | string s =>
      rw [readInstant] at h
      split at h
      · rename_i ht
        cases h
        exact ⟨s, rfl, ht⟩
      · cases h
    | _ => cases h
  · rintro ⟨s, rfl, h⟩
    exact readInstant_of_ofText h

/-- A datum that is no text of an instant; what is wrong with a text is said by the reader of instants. -/
inductive NoInstant : Datum → ReadError → Prop
  | type {d : Datum} (h : ∀ s, d ≠ string s) : NoInstant d (d.mismatch .instant)
  | text {s : String} {fault : Instant.ReadError} (h : Instant.ofText s = .error fault) :
    NoInstant (string s) (.shape (.notAnInstant fault))

theorem readInstant_eq_error_iff : d.readInstant = .error e ↔ NoInstant d e := by
  constructor
  · intro h
    cases d with
    | string s =>
      rw [readInstant] at h
      split at h
      · cases h
      · rename_i hfault
        cases h
        exact .text hfault
    -- any other kind of datum is refused by its type alone
    | _ =>
      cases h
      exact .type fun s hs => by cases hs
  · intro h
    cases h with
    | type h =>
      cases d with
      | string s => exact absurd rfl (h s)
      | _ => rfl
    | text h => rw [readInstant, h]

/-! ### Words -/

/-- An integer is read as the word with its value, if there is one. -/
theorem readWord_eq_ok_iff {w : UInt64} : d.readWord = .ok w ↔ d = integer w.toNat := by
  constructor
  · intro h
    cases d with
    | integer n =>
      rw [readWord] at h
      split at h
      · rename_i hrange
        cases h
        -- the range is checked before the integer is made a word, so that nothing wraps around
        rw [UInt64.toNat_ofNat_of_lt' (by omega), Int.toNat_of_nonneg hrange.1]
      · cases h
    | _ => cases h
  · rintro rfl
    exact readWord_toNat w

/-- A datum that is no integer of 64 bits without a sign. -/
inductive NoWord : Datum → ReadError → Prop
  | type {d : Datum} (h : ∀ n, d ≠ integer n) : NoWord d (d.mismatch .word)
  | range {n : Int} (h : ¬ (0 ≤ n ∧ n < UInt64.size)) :
    NoWord (integer n) (.shape (.wrongInteger n .word))

theorem readWord_eq_error_iff : d.readWord = .error e ↔ NoWord d e := by
  constructor
  · intro h
    cases d with
    | integer n =>
      rw [readWord] at h
      split at h
      · cases h
      · rename_i hrange
        cases h
        exact .range hrange
    | _ =>
      cases h
      exact .type fun n hn => by cases hn
  · intro h
    cases h with
    | type h =>
      cases d with
      | integer n => exact absurd rfl (h n)
      | _ => rfl
    | range h => rw [readWord, if_neg h]

/-! ### Optional values -/

theorem readOptional_eq_ok_iff {α : Type} {read : Datum → Except ReadError α} {o : Option α} :
    d.readOptional read = .ok o ↔ d = null ∧ o = none ∨ d ≠ null ∧ ∃ a, read d = .ok a ∧ o = some a := by
  cases d with
  | null => simp [readOptional, eq_comm]
  | _ =>
    rw [readOptional, map_eq_ok_iff]
    · simp only [reduceCtorEq, false_and, false_or, ne_eq, not_false_eq_true, true_and, eq_comm]
    · exact fun h => by cases h

end CanaryMetrics.Datum
