import CanaryMetrics.Json.Token

namespace CanaryMetrics.Json

/-!
# Characters and their units of UTF-16

A string may name the units of UTF-16 of a character instead of the character.  Pairing the surrogates
among the pieces of a string is decoding UTF-16.

* `utf16` — the units of a character.
* `append_eq_flatMap_utf16_iff` — a character's units tell it apart, whatever follows them.
* `Piece.units` — the units of a piece of a string.
* `pairUnits?_eq_some_iff` — pieces stand for the text with the same units, if there is one.
-/

/-- The units of UTF-16 of a character: a surrogate pair beyond U+FFFF, and its code point before. -/
def utf16 (c : Char) : List Nat :=
  if c.toNat < 0x10000 then [c.toNat]
  else [0xD800 + (c.toNat - 0x10000) / 0x400, 0xDC00 + (c.toNat - 0x10000) % 0x400]

/-! ### Surrogates -/

theorem isHighSurrogate_iff {u : Nat} : isHighSurrogate u = true ↔ 0xD800 ≤ u ∧ u < 0xDC00 := by
  simp only [isHighSurrogate, Bool.and_eq_true, decide_eq_true_eq]

theorem isLowSurrogate_iff {u : Nat} : isLowSurrogate u = true ↔ 0xDC00 ≤ u ∧ u < 0xE000 := by
  simp only [isLowSurrogate, Bool.and_eq_true, decide_eq_true_eq]

/-- No character has the code point of a surrogate. -/
theorem toNat_lt_or_lt (c : Char) : c.toNat < 0xD800 ∨ 0xDFFF < c.toNat ∧ c.toNat < 0x110000 :=
  c.valid

/-- Any other code point is a character's. -/
theorem toNat_ofNat {n : Nat} (h : n.isValidChar) : (Char.ofNat n).toNat = n := by
  rw [Char.ofNat, dif_pos h]
  rfl

/-! ### The units of a character -/

theorem utf16_ofNat_of_not_surrogate {u : Nat} (hu : u < 0x10000) (hhigh : ¬ isHighSurrogate u = true)
    (hlow : ¬ isLowSurrogate u = true) : utf16 (Char.ofNat u) = [u] := by
  rw [isHighSurrogate_iff] at hhigh
  rw [isLowSurrogate_iff] at hlow
  have hvalid : u.isValidChar := by
    unfold Nat.isValidChar
    omega
  rw [utf16, toNat_ofNat hvalid, if_pos hu]

theorem utf16_ofNat_of_surrogates {u v : Nat} (hu : isHighSurrogate u = true)
    (hv : isLowSurrogate v = true) :
    utf16 (Char.ofNat (0x10000 + (u - 0xD800) * 0x400 + (v - 0xDC00))) = [u, v] := by
  rw [isHighSurrogate_iff] at hu
  rw [isLowSurrogate_iff] at hv
  have hvalid : (0x10000 + (u - 0xD800) * 0x400 + (v - 0xDC00)).isValidChar := by
    unfold Nat.isValidChar
    omega
  rw [utf16, toNat_ofNat hvalid, if_neg (by omega)]
  simp only [List.cons.injEq, and_true]
  omega

/-- A character has one unit, which is no surrogate, or a surrogate pair. -/
theorem utf16_cases (c : Char) :
    (utf16 c = [c.toNat] ∧ ¬ isHighSurrogate c.toNat = true ∧ ¬ isLowSurrogate c.toNat = true) ∨
      ∃ u v, utf16 c = [u, v] ∧ isHighSurrogate u = true ∧ isLowSurrogate v = true := by
  have hc := toNat_lt_or_lt c
  simp only [isHighSurrogate_iff, isLowSurrogate_iff]
  by_cases hone : c.toNat < 0x10000
  · exact .inl ⟨by rw [utf16, if_pos hone], by omega, by omega⟩
  · exact .inr ⟨_, _, by rw [utf16, if_neg hone], by omega, by omega⟩

/-- The units of a character tell it apart, whatever follows them. -/
theorem utf16_append_inj {c d : Char} {us vs : List Nat} (h : utf16 c ++ us = utf16 d ++ vs) :
    c = d ∧ us = vs := by
  have hc := toNat_lt_or_lt c
  have hd := toNat_lt_or_lt d
  rw [← Char.toNat_inj]
  unfold utf16 at h
  -- a unit by itself lies outside the range in which pairs begin, so the two kinds are never confused
  split at h <;> split at h <;>
    simp only [List.cons_append, List.nil_append, List.cons.injEq] at h
  · exact h
  · omega
  · omega
  · obtain ⟨hhigh, hlow, hrest⟩ := h
    exact ⟨by omega, hrest⟩

/-- A low surrogate is not the first unit of a character, and follows a high one that is. -/
theorem surrogates_of_utf16_append {c : Char} {u : Nat} {us vs : List Nat} (h : u :: us = utf16 c ++ vs) :
    ¬ isLowSurrogate u = true ∧
      (isHighSurrogate u = true → ∃ v vs, us = v :: vs ∧ isLowSurrogate v = true) := by
  rcases utf16_cases c with ⟨hc, hhigh, hlow⟩ | ⟨w, v, hc, hhigh, hlow⟩
  · rw [hc] at h
    obtain ⟨rfl, -⟩ := List.cons.inj h
    exact ⟨hlow, fun h => absurd h hhigh⟩
  · rw [hc] at h
    obtain ⟨rfl, rfl⟩ := List.cons.inj h
    refine ⟨?_, fun _ => ⟨v, _, rfl, hlow⟩⟩
    rw [isHighSurrogate_iff] at hhigh
    rw [isLowSurrogate_iff]
    omega

/-! ### The units of a text -/

theorem utf16_ne_nil (c : Char) : utf16 c ≠ [] := by
  unfold utf16
  split <;> exact List.cons_ne_nil _ _

theorem flatMap_utf16_eq_nil_iff {cs : List Char} : cs.flatMap utf16 = [] ↔ cs = [] := by
  cases cs <;> simp [utf16_ne_nil]

/-- The first of the characters with certain units is the one whose units come first. -/
theorem append_eq_flatMap_utf16_iff {c : Char} {us : List Nat} {cs : List Char} :
    utf16 c ++ us = cs.flatMap utf16 ↔ ∃ ds, c :: ds = cs ∧ us = ds.flatMap utf16 := by
  constructor
  · intro h
    cases cs with
    | nil => exact absurd (List.append_eq_nil_iff.1 h).1 (utf16_ne_nil c)
    | cons d ds =>
      rw [List.flatMap_cons] at h
      obtain ⟨rfl, hrest⟩ := utf16_append_inj h
      exact ⟨ds, rfl, hrest⟩
  · rintro ⟨ds, rfl, rfl⟩
    rw [List.flatMap_cons]

/-- Among the units of a text a low surrogate is not the first one, and follows a high one that is. -/
theorem surrogates_of_cons_eq_flatMap_utf16 {u : Nat} {us : List Nat} {cs : List Char}
    (h : u :: us = cs.flatMap utf16) :
    ¬ isLowSurrogate u = true ∧
      (isHighSurrogate u = true → ∃ v vs, us = v :: vs ∧ isLowSurrogate v = true) := by
  cases cs with
  | nil => cases h
  | cons c cs => exact surrogates_of_utf16_append h

/-! ### The pieces of a string -/

/-- The units of a piece of a string. -/
def Piece.units : Piece → List Nat
  | char c => utf16 c
  | unit u => [u]

/-- A high surrogate before a piece that names no low one is half a pair. -/
theorem cons_units_ne_flatMap_utf16 {u : Nat} {ps : List Piece} (hu : isHighSurrogate u = true)
    (hps : ∀ v qs, ps = .unit v :: qs → ¬ isLowSurrogate v = true) (cs : List Char) :
    u :: ps.flatMap Piece.units ≠ cs.flatMap utf16 := by
  intro h
  obtain ⟨v, vs, hvs, hv⟩ := (surrogates_of_cons_eq_flatMap_utf16 h).2 hu
  -- in a text the second half of a pair would have to come next
  cases ps with
  | nil => cases hvs
  | cons p qs =>
    cases p with
    | unit w =>
      obtain ⟨rfl, -⟩ := List.cons.inj hvs
      exact hps _ qs rfl hv
    | char c => exact (surrogates_of_utf16_append hvs.symm).1 hv

/-- What stands for a character comes before what stands for the others. -/
theorem map_cons_eq_some_iff {o : Option (List Char)} {us : List Nat} (c : Char) (cs : List Char)
    (ih : ∀ {ds : List Char}, o = some ds ↔ us = ds.flatMap utf16) :
    (c :: ·) <$> o = some cs ↔ utf16 c ++ us = cs.flatMap utf16 := by
  rw [Option.map_eq_map, Option.map_eq_some_iff, append_eq_flatMap_utf16_iff]
  simp only [ih, and_comm]

/-- **Pairing surrogates is decoding UTF-16.**  Pieces stand for the characters with the same units. -/
theorem pairUnits?_eq_some_iff {ps : List Piece} (h : ∀ u, .unit u ∈ ps → u < 0x10000)
    {cs : List Char} : pairUnits? ps = some cs ↔ ps.flatMap Piece.units = cs.flatMap utf16 := by
  fun_induction pairUnits? ps generalizing cs with
  | case1 =>
    rw [Option.some.injEq, List.flatMap_nil, eq_comm, eq_comm (a := []), flatMap_utf16_eq_nil_iff]
  | case2 c ps ih =>
    exact map_cons_eq_some_iff c cs (ih fun u hu => h u (List.mem_cons_of_mem _ hu))
  | case3 u hu v qs hv ih =>
    have hpair := map_cons_eq_some_iff (Char.ofNat (0x10000 + (u - 0xD800) * 0x400 + (v - 0xDC00))) cs
      (ih fun u hu => h u (List.mem_cons_of_mem _ (List.mem_cons_of_mem _ hu)))
    rwa [utf16_ofNat_of_surrogates hu hv] at hpair
  -- half a pair, before a unit that does not complete it
  | case4 u hu v qs hv =>
    have hnext : ∀ w qs', Piece.unit v :: qs = .unit w :: qs' → ¬ isLowSurrogate w = true := by
      rintro w qs' heq
      cases heq
      exact hv
    exact iff_of_false (by simp) (cons_units_ne_flatMap_utf16 hu hnext cs)
  -- half a pair, before a character or at the end
  | case5 u ps hu hps =>
    have hnext : ∀ v qs, ps = .unit v :: qs → ¬ isLowSurrogate v = true :=
      fun v qs heq => absurd heq (hps v qs)
    exact iff_of_false (by simp) (cons_units_ne_flatMap_utf16 hu hnext cs)
  -- the second half of a pair without the first
  | case6 u ps _ hu =>
    exact iff_of_false (by simp) fun heq => (surrogates_of_cons_eq_flatMap_utf16 heq).1 hu
  | case7 u ps hhigh hlow ih =>
    have hunit := map_cons_eq_some_iff (Char.ofNat u) cs (ih fun u hu => h u (List.mem_cons_of_mem _ hu))
    rwa [utf16_ofNat_of_not_surrogate (h u List.mem_cons_self) hhigh hlow] at hunit

end CanaryMetrics.Json
