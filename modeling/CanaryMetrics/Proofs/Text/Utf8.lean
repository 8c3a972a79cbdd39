import CanaryMetrics.StringMap
import Mathlib.Tactic.SplitIfs

namespace CanaryMetrics.Text

/-!
# Strings and their bytes

Strings compare by code point.  They compare alike by the bytes of UTF-8, however many bytes each
character takes.

* `bytes`, `codePoints` — the two ways to look at a string.
* `utf8EncodeChar_append_lt` — the bytes of two different characters decide, whatever follows them.
* `bytes_lt_bytes_iff`, `codePoints_lt_codePoints_iff` — hence both orders are that of strings.
-/

/-- The bytes of a string in UTF-8. -/
def bytes (s : String) : List UInt8 :=
  s.toUTF8.data.toList

/-- The code points of a string. -/
def codePoints (s : String) : List Nat :=
  s.toList.map Char.toNat

/-! ### The bytes of a character -/

/-- The bytes of a string are those of its characters, one after the other. -/
theorem bytes_eq_flatMap (s : String) : bytes s = s.toList.flatMap String.utf8EncodeChar := by
  rw [bytes, String.toUTF8_eq_toByteArray, ← String.utf8Encode_toList, List.utf8Encode,
    List.toList_data_toByteArray]

/-- Every character takes a byte. -/
theorem utf8EncodeChar_ne_nil (c : Char) : String.utf8EncodeChar c ≠ [] := by
  unfold String.utf8EncodeChar
  simp only
  split_ifs <;> exact List.cons_ne_nil _ _

/-- Bytes compare as the numbers do that they are made from. -/
theorem ofNat_cons_lt_iff {m n : Nat} (hm : m < 256) (hn : n < 256) {us vs : List UInt8} :
    UInt8.ofNat m :: us < UInt8.ofNat n :: vs ↔ m < n ∨ m = n ∧ us < vs := by
  rw [List.cons_lt_cons_iff, UInt8.lt_iff_toNat_lt, ← UInt8.toNat_inj, UInt8.toNat_ofNat',
    UInt8.toNat_ofNat', Nat.mod_eq_of_lt hm, Nat.mod_eq_of_lt hn]

/-- The bytes of the lesser character come first, whatever follows. -/
theorem utf8EncodeChar_append_lt {c d : Char} (h : c < d) (us vs : List UInt8) :
    String.utf8EncodeChar c ++ us < String.utf8EncodeChar d ++ vs := by
  have hcd : c.val.toNat < d.val.toNat := h
  have hd : d.val.toNat < 0x110000 := by
    have hvalid : d.val.toNat < 0xD800 ∨ 0xDFFF < d.val.toNat ∧ d.val.toNat < 0x110000 := d.valid
    omega
  -- all bytes but the first one are digits to the base 64
  have hthird : ∀ n, n / 4096 = n / 64 / 64 := fun n => by omega
  have hfourth : ∀ n, n / 262144 = n / 64 / 64 / 64 := fun n => by omega
  unfold String.utf8EncodeChar
  simp only [hthird, hfourth]
  -- more bytes begin with a greater one, and of as many bytes the first that differs decides
  split_ifs <;>
    simp (disch := omega) only [List.cons_append, List.nil_append, ofNat_cons_lt_iff] <;> omega

/-! ### The order of strings -/

/-- The lesser string comes first by its bytes. -/
theorem flatMap_utf8EncodeChar_lt {cs ds : List Char} (h : cs < ds) :
    cs.flatMap String.utf8EncodeChar < ds.flatMap String.utf8EncodeChar := by
  induction cs generalizing ds with
  | nil =>
    cases ds with
    | nil => exact absurd h (List.lt_irrefl _)
    | cons d ds =>
      rw [List.flatMap_nil, List.flatMap_cons]
      obtain ⟨u, us, hd⟩ := List.exists_cons_of_ne_nil (utf8EncodeChar_ne_nil d)
      rw [hd, List.cons_append]
      exact List.nil_lt_cons _ _
  | cons c cs ih =>
    cases ds with
    | nil => exact absurd h (List.not_lt_nil _)
    | cons d ds =>
      rw [List.flatMap_cons, List.flatMap_cons]
      -- the first characters decide, or else they have the same bytes
      rcases List.cons_lt_cons_iff.1 h with hlt | ⟨rfl, hlt⟩
      · exact utf8EncodeChar_append_lt hlt _ _
      · exact List.append_left_lt (ih hlt)

section

variable {α : Type} [LT α] [Std.Asymm fun a b : α => a < b] {f : String → List α}

/-- What keeps the order of strings also reflects it. -/
theorem lt_iff_of_lt (h : ∀ s t, s < t → f s < f t) (s t : String) : f s < f t ↔ s < t := by
  refine ⟨fun hlt => ?_, h s t⟩
  by_cases hst : s < t
  · exact hst
  by_cases heq : s = t
  · exact absurd (heq ▸ hlt) (List.lt_irrefl _)
  · exact absurd hlt (List.lt_asymm (h t s (StringMap.lt_of_not_lt_of_ne hst heq)))

/-- What keeps the order of strings keeps them apart. -/
theorem eq_iff_of_lt (h : ∀ s t, s < t → f s < f t) (s t : String) : f s = f t ↔ s = t := by
  refine ⟨fun heq => ?_, congrArg f⟩
  by_cases hst : s < t
  · exact absurd (heq ▸ h s t hst) (List.lt_irrefl _)
  by_cases hts : t < s
  · exact absurd (heq ▸ h t s hts) (List.lt_irrefl _)
  · exact String.le_antisymm hts hst

end

theorem bytes_lt_bytes_of_lt (s t : String) (h : s < t) : bytes s < bytes t := by
  rw [bytes_eq_flatMap, bytes_eq_flatMap]
  exact flatMap_utf8EncodeChar_lt (String.lt_iff.1 h)

theorem codePoints_lt_codePoints_of_lt (s t : String) (h : s < t) : codePoints s < codePoints t := by
  unfold codePoints
  exact List.map_lt (fun _ _ hcd => hcd) (String.lt_iff.1 h)

/-- Strings compare by their bytes. -/
theorem bytes_lt_bytes_iff (s t : String) : bytes s < bytes t ↔ s < t :=
  lt_iff_of_lt bytes_lt_bytes_of_lt s t

example : ["\x7f", "\u0080", "\u07ff", "\u0800", "\uffff", "😀"].Pairwise (fun s t => bytes s < bytes t) := by
  decide +kernel

/-- Strings compare by their code points. -/
theorem codePoints_lt_codePoints_iff (s t : String) : codePoints s < codePoints t ↔ s < t :=
  lt_iff_of_lt codePoints_lt_codePoints_of_lt s t

/-- The bytes tell strings apart. -/
theorem bytes_eq_bytes_iff (s t : String) : bytes s = bytes t ↔ s = t :=
  eq_iff_of_lt bytes_lt_bytes_of_lt s t

/-- The code points tell strings apart. -/
theorem codePoints_eq_codePoints_iff (s t : String) : codePoints s = codePoints t ↔ s = t :=
  eq_iff_of_lt codePoints_lt_codePoints_of_lt s t

end CanaryMetrics.Text
