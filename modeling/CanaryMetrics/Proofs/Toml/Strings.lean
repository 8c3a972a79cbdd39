import CanaryMetrics.Toml.Strings

namespace CanaryMetrics.Toml

open Text

/-!
# Written TOML strings are read back

A string is written on a single line between quotes, with every quote, backslash and control character
escaped.

* `escape`, `quotedChars` — the writing of a character and of a string.
* `escape_cases` — the three ways in which a character can be written.
* `readBasic?_escaped` — a written string is read up to its closing quote, whatever follows it.
* `readString?_quotedChars` — so is one whose kind is not yet known, unless another quote follows.
-/

/-! ### Writing -/

/-- The letters of short escapes. -/
def shortEscapes : List Char :=
  ['b', 't', 'n', 'f', 'r', '"', '\\']

/-- A character as it is written: by a short escape if there is one, as itself if a string may hold it,
    and by the digits of its code point otherwise. -/
def escape (c : Char) : List Char :=
  match shortEscapes.find? fun e => shortEscape? e = some c with
  | some e => ['\\', e]
  | none =>
    if isPlain c then [c]
    else ['\\', 'u', '0', '0', hexChar (c.toNat / 16), hexChar (c.toNat % 16)]

/-- A string as it is written. -/
def quotedChars (s : String) : List Char :=
  '"' :: (s.toList.flatMap escape ++ ['"'])

/-! ### One character -/

/-- A character is written by a short escape, by the two digits of its code point, or as itself. -/
theorem escape_cases (c : Char) :
    (∃ e, e ≠ 'u' ∧ e ≠ 'U' ∧ shortEscape? e = some c ∧ escape c = ['\\', e]) ∨
    (c.toNat < 0x80 ∧
      escape c = ['\\', 'u', '0', '0', hexChar (c.toNat / 16), hexChar (c.toNat % 16)]) ∨
    (c ≠ '"' ∧ c ≠ '\\' ∧ isPlain c = true ∧ escape c = [c]) := by
  unfold escape
  split
  · rename_i e hfind
    have hmem : e ∈ shortEscapes := List.mem_of_find?_eq_some hfind
    have hu : e ≠ 'u' := by
      rintro rfl
      exact absurd hmem (by decide)
    have hU : e ≠ 'U' := by
      rintro rfl
      exact absurd hmem (by decide)
    have hshort : shortEscape? e = some c := by simpa using List.find?_some hfind
    exact .inl ⟨e, hu, hU, hshort, rfl⟩
  · rename_i hnone
    rw [List.find?_eq_none] at hnone
    have hquote : c ≠ '"' := by
      rintro rfl
      exact hnone '"' (by decide) (by decide)
    have hbackslash : c ≠ '\\' := by
      rintro rfl
      exact hnone '\\' (by decide) (by decide)
    by_cases hplain : isPlain c = true
    · exact .inr (.inr ⟨hquote, hbackslash, hplain, if_pos hplain⟩)
    · -- what a string may not hold is a control character
      have hcontrol : c.toNat < 0x80 := by
        simp only [isPlain, Bool.or_eq_true, Bool.and_eq_true, decide_eq_true_eq] at hplain
        omega
      exact .inr (.inl ⟨hcontrol, if_neg hplain⟩)

/-- Digits of code points end no string and start no escape. -/
theorem hexChar_ne_marks {n : Nat} (h : n < 16) : hexChar n ≠ '"' ∧ hexChar n ≠ '\\' := by
  have : ∀ m : Fin 16, hexChar m ≠ '"' ∧ hexChar m ≠ '\\' := by decide
  exact this ⟨n, h⟩

/-- A character that is neither a quote nor a backslash belongs to the body. -/
theorem basicBody?_cons {c : Char} (hquote : c ≠ '"') (hbackslash : c ≠ '\\') (cs : List Char) :
    basicBody? (c :: cs) = (basicBody? cs).map fun p => (c :: p.1, p.2) := by
  rw [basicBody?]
  · exact hquote
  · intro d ds hd
    exact absurd hd hbackslash

/-- A written character belongs to the body of the string. -/
theorem basicBody?_escape_append (c : Char) (cs : List Char) :
    basicBody? (escape c ++ cs) = (basicBody? cs).map fun p => (escape c ++ p.1, p.2) := by
  rcases escape_cases c with ⟨e, -, -, -, hescape⟩ | ⟨hcontrol, hescape⟩ |
    ⟨hquote, hbackslash, -, hescape⟩
  · rw [hescape]
    rfl
  · have hhigh := hexChar_ne_marks (n := c.toNat / 16) (by omega)
    have hlow := hexChar_ne_marks (n := c.toNat % 16) (by omega)
    rw [hescape]
    show basicBody? ('\\' :: 'u' :: '0' :: '0' :: hexChar (c.toNat / 16) :: hexChar (c.toNat % 16) :: cs)
      = _
    -- behind the backslash four digits follow, none of which ends the string
    rw [basicBody?, basicBody?_cons (by decide) (by decide), basicBody?_cons (by decide) (by decide),
      basicBody?_cons hhigh.1 hhigh.2, basicBody?_cons hlow.1 hlow.2]
    simp only [Option.map_map]
    rfl
  · rw [hescape]
    exact basicBody?_cons hquote hbackslash cs

/-- A written character is decoded as that character. -/
theorem unescape?_escape_append (c : Char) (cs : List Char) :
    unescape? false (escape c ++ cs) = (c :: ·) <$> unescape? false cs := by
  rcases escape_cases c with ⟨e, hu, hU, hshort, hescape⟩ | ⟨hcontrol, hescape⟩ |
    ⟨-, hbackslash, hplain, hescape⟩
  · rw [hescape]
    show unescape? false ('\\' :: e :: cs) = _
    rw [unescape?.eq_def]
    simp only [if_true, if_neg hu, if_neg hU, hshort, Bool.false_eq_true, false_and, if_false]
    rfl
  · have hdigits : codePoint? 4 ('0' :: '0' :: hexChar (c.toNat / 16) :: hexChar (c.toNat % 16) :: cs)
        = some c := by
      -- the four digits are those of the code point of `c`
      have hvalid : c.toNat.isValidChar := c.valid
      simp only [codePoint?, List.take_succ_cons, List.take_zero, List.length_cons, List.length_nil,
        if_true, hexNumber?_two_digits (n := c.toNat) (by omega)]
      show (if c.toNat.isValidChar then some (Char.ofNat c.toNat) else none) = some c
      rw [if_pos hvalid, Char.ofNat_toNat]
    rw [hescape]
    show unescape? false ('\\' :: 'u' :: '0' :: '0' :: hexChar (c.toNat / 16) ::
      hexChar (c.toNat % 16) :: cs) = _
    rw [unescape?.eq_def]
    simp only [if_true, hdigits]
    rfl
  · rw [hescape]
    show unescape? false (c :: cs) = _
    rw [unescape?.eq_def]
    simp only [if_neg hbackslash, hplain, true_or, if_true]

/-- A written character does not start with a quote. -/
theorem escape_append_ne_quote_cons (c : Char) (cs ds : List Char) : escape c ++ cs ≠ '"' :: ds := by
  intro h
  rcases escape_cases c with ⟨e, -, -, -, hescape⟩ | ⟨-, hescape⟩ | ⟨hquote, -, -, hescape⟩
  · rw [hescape] at h
    exact absurd (List.cons.inj h).1 (by decide)
  · rw [hescape] at h
    exact absurd (List.cons.inj h).1 (by decide)
  · rw [hescape] at h
    exact hquote (List.cons.inj h).1

/-! ### All characters -/

/-- Written characters are the body of a string, up to the closing quote. -/
theorem basicBody?_escaped (cs rest : List Char) :
    basicBody? (cs.flatMap escape ++ '"' :: rest) = some (cs.flatMap escape, rest) := by
  induction cs with
  | nil => rfl
  | cons c cs ih =>
    rw [List.flatMap_cons, List.append_assoc, basicBody?_escape_append, ih, Option.map_some]

/-- Written characters are decoded as these characters. -/
theorem unescape?_escaped (cs : List Char) : unescape? false (cs.flatMap escape) = some cs := by
  induction cs with
  | nil => rw [List.flatMap_nil, unescape?]
  | cons c cs ih =>
    rw [List.flatMap_cons, unescape?_escape_append, ih]
    rfl

/-- A written string is read, after its opening quote, up to its closing one. -/
theorem readBasic?_escaped (s : String) (rest : List Char) :
    readBasic? (s.toList.flatMap escape ++ '"' :: rest) = some (s, rest) := by
  unfold readBasic?
  rw [basicBody?_escaped]
  show (unescape? false (s.toList.flatMap escape)).bind _ = _
  rw [unescape?_escaped]
  show some (String.ofList s.toList, rest) = some (s, rest)
  rw [String.ofList_toList]

/-- A written string is read as a string on a single line, unless a quote follows an empty one. -/
theorem readString?_quotedChars (s : String) {rest : List Char} (hrest : rest.head? ≠ some '"') :
    readString? (quotedChars s ++ rest) = some (s, rest) := by
  have hread := readBasic?_escaped s rest
  have hchars : quotedChars s ++ rest = '"' :: (s.toList.flatMap escape ++ '"' :: rest) := by
    rw [quotedChars, List.cons_append, List.append_assoc, List.singleton_append]
  rw [hchars, readString?, hread]
  -- it does not start with three quotes
  intro cs hcs
  cases hs : s.toList with
  | nil =>
    rw [hs] at hcs
    apply hrest
    rw [show rest = '"' :: cs from (List.cons.inj hcs).2]
    rfl
  | cons c ds =>
    rw [hs, List.flatMap_cons, List.append_assoc] at hcs
    exact escape_append_ne_quote_cons c _ _ hcs

end CanaryMetrics.Toml
