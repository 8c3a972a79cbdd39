import CanaryMetrics.Proofs.Json.Numerals
import CanaryMetrics.Proofs.Json.Strings

namespace CanaryMetrics.Json

open Text

/-!
# Tokens and their texts

* `TokenText`, `tokenText_chars` — the texts of a token, of which the written one is the shortest.
* `TokenText.scanToken?_append`, `exists_tokenText_of_scanToken?` — these texts are scanned as the token,
  whatever follows, and no others are; only a number must not be prolonged.
* `TokenText.tokenizeChars?_append` — so the token is the first one of the text.
* `tokenizeChars?_chars_append` — which holds of what is written.
-/

/-- What follows a token does not prolong it, and if it is a number then its numeral is proper. -/
def Token.EndsBefore (t : Token) (rest : List Char) : Prop :=
  ∀ n, t = .number n → n.Proper ∧ Numeral.NumeralEnd rest

/-! ### The texts of a token -/

/-- A text of a token. -/
inductive TokenText : List Char → Token → Prop
  /-- An opening brace. -/
  | openBrace : TokenText ['{'] .openBrace
  /-- A closing brace. -/
  | closeBrace : TokenText ['}'] .closeBrace
  /-- An opening bracket. -/
  | openBracket : TokenText ['['] .openBracket
  /-- A closing bracket. -/
  | closeBracket : TokenText [']'] .closeBracket
  /-- A colon. -/
  | colon : TokenText [':'] .colon
  /-- A comma. -/
  | comma : TokenText [','] .comma
  /-- The word `null`. -/
  | null : TokenText ['n', 'u', 'l', 'l'] .null
  /-- The word `true`. -/
  | trueWord : TokenText ['t', 'r', 'u', 'e'] (.bool true)
  /-- The word `false`. -/
  | falseWord : TokenText ['f', 'a', 'l', 's', 'e'] (.bool false)
  /-- A number. -/
  | number {cs : List Char} {n : Numeral} (h : Numeral.NumeralText cs n) : TokenText cs (.number n)
  /-- A string: pieces between quotes, and what their units stand for. -/
  | string {cs : List Char} {ps : List Piece} {s? : Option String} (hbody : BodyText cs ps)
    (hs : StandsFor (ps.flatMap Piece.units) s?) : TokenText ('"' :: (cs ++ ['"'])) (.string s?)

/-- Half a surrogate pair stands for no text. -/
theorem standsFor_highSurrogate : StandsFor [0xD800] none := by
  refine .none fun s hs => ?_
  obtain ⟨v, vs, hvs, -⟩ := (surrogates_of_cons_eq_flatMap_utf16 hs).2 (by decide)
  cases hvs

/-- What is written of a token is a text of it, if its numeral is proper. -/
theorem tokenText_chars {t : Token} (h : ∀ n, t = .number n → n.Proper) : TokenText t.chars t := by
  cases t with
  | openBrace => exact .openBrace
  | closeBrace => exact .closeBrace
  | openBracket => exact .openBracket
  | closeBracket => exact .closeBracket
  | colon => exact .colon
  | comma => exact .comma
  | null => exact .null
  | bool b =>
    cases b with
    | true => exact .trueWord
    | false => exact .falseWord
  | number n => exact .number (Numeral.numeralText_chars (h n rfl))
  | string s? =>
    cases s? with
    | none =>
      -- the written string is one high surrogate
      have hpiece : PieceText ['\\', 'u', 'd', '8', '0', '0'] (.unit 0xD800) :=
        .unit (hexNumber?_eq_some_iff.1 (by decide))
      exact .string (.cons hpiece .nil) standsFor_highSurrogate
    | some s =>
      obtain ⟨ps, hbody, hps⟩ := bodyText_flatMap_escape s.toList
      exact .string hbody (hps ▸ .text s)

variable {cs rest : List Char} {t : Token}

/-- No token starts like white space, or like something that prolongs a number without being a digit. -/
theorem TokenText.exists_eq_cons (h : TokenText cs t) :
    ∃ c ds, cs = c :: ds ∧ ∀ d ∈ [' ', '\t', '\n', '\r', '.', 'e', 'E'], c ≠ d := by
  cases h with
  | openBrace | closeBrace | openBracket | closeBracket | colon | comma | null | trueWord | falseWord
  | string => exact ⟨_, _, rfl, by simp⟩
  | number h =>
    obtain ⟨c, ds, rfl, hc⟩ := h.exists_eq_cons
    refine ⟨c, ds, rfl, ?_⟩
    rcases hc with hc | rfl
    · exact ne_of_all_not (by decide) hc
    · simp

/-! ### One token -/

/-- A text that starts like a numeral is scanned as one. -/
theorem scanToken?_of_numeralStart {c : Char} (hc : c.isDigit = true ∨ c = '-') (cs : List Char) :
    scanToken? (c :: cs) = (Numeral.scan? (c :: cs)).map fun p => (.number p.1, p.2) := by
  have hne : ∀ d : Char, d.isDigit = false → d ≠ '-' → c ≠ d := by
    intro d hd hminus
    rcases hc with hc | rfl
    · exact ne_of_isDigit hc hd
    · exact hminus.symm
  -- so the character begins none of the other tokens
  have hpunctuation : punctuation? c = none := by
    unfold punctuation?
    split
    all_goals first
      | rfl
      | exact absurd rfl (hne _ (by decide) (by decide))
  rw [scanToken?, hpunctuation]
  · exact hne '"' (by decide) (by decide)
  · exact fun _ hn => absurd hn (hne 'n' (by decide) (by decide))
  · exact fun _ ht => absurd ht (hne 't' (by decide) (by decide))
  · exact fun _ hf => absurd hf (hne 'f' (by decide) (by decide))

/-- **Tokens are scanned.**  A text of a token is scanned as that token, whatever follows; only a number
    must not be prolonged. -/
theorem TokenText.scanToken?_append (h : TokenText cs t)
    (hend : ∀ n, t = .number n → Numeral.NumeralEnd rest) :
    scanToken? (cs ++ rest) = some (t, rest) := by
  cases h with
  | openBrace | closeBrace | openBracket | closeBracket | colon | comma | null | trueWord | falseWord => rfl
  | number h =>
    have hscan := h.scan?_append (hend _ rfl)
    -- the first character of a numeral tells the scanner that it is one
    obtain ⟨c, ds, rfl, hc⟩ := h.exists_eq_cons
    rw [List.cons_append] at hscan ⊢
    rw [scanToken?_of_numeralStart hc, hscan]
    rfl
  | @string cs ps s? hbody hs =>
    have hscan : scanString? (cs ++ '"' :: rest) = some (ps, rest) :=
      scanString?_eq_some_iff.2 ⟨cs, rfl, hbody⟩
    rw [List.cons_append, List.append_assoc, List.singleton_append, scanToken?, hscan]
    simp only [Option.bind_eq_bind, Option.bind_some, Option.pure_def,
      hbody.ofList_pairUnits?_eq_iff.2 hs]

/-- The tokens that are one character. -/
theorem tokenText_of_punctuation? {c : Char} (h : punctuation? c = some t) :
    TokenText [c] t ∧ ∀ n, t ≠ .number n := by
  unfold punctuation? at h
  split at h
  all_goals cases h
  · exact ⟨.openBrace, fun n hn => by cases hn⟩
  · exact ⟨.closeBrace, fun n hn => by cases hn⟩
  · exact ⟨.openBracket, fun n hn => by cases hn⟩
  · exact ⟨.closeBracket, fun n hn => by cases hn⟩
  · exact ⟨.colon, fun n hn => by cases hn⟩
  · exact ⟨.comma, fun n hn => by cases hn⟩

/-- Only texts of tokens are scanned, and all digits that follow each other are taken. -/
theorem exists_tokenText_of_scanToken? (h : scanToken? cs = some (t, rest)) :
    ∃ text, cs = text ++ rest ∧ TokenText text t ∧ ∀ n, t = .number n → NoDigitFirst rest := by
  unfold scanToken? at h
  split at h
  · rename_i cs
    simp only [Option.bind_eq_bind, Option.bind_eq_some_iff, Option.pure_def, Option.some.injEq,
      Prod.mk.injEq, Prod.exists] at h
    obtain ⟨ps, r, hscan, rfl, rfl⟩ := h
    obtain ⟨body, rfl, hbody⟩ := scanString?_eq_some_iff.1 hscan
    refine ⟨'"' :: (body ++ ['"']), by simp, .string hbody (hbody.ofList_pairUnits?_eq_iff.1 rfl), ?_⟩
    exact fun n hn => by cases hn
  · cases h
    exact ⟨_, rfl, .null, fun n hn => by cases hn⟩
  · cases h
    exact ⟨_, rfl, .trueWord, fun n hn => by cases hn⟩
  · cases h
    exact ⟨_, rfl, .falseWord, fun n hn => by cases hn⟩
  · cases h
  · split at h
    · rename_i hpunctuation
      cases h
      obtain ⟨htext, hne⟩ := tokenText_of_punctuation? hpunctuation
      exact ⟨[_], rfl, htext, fun n hn => absurd hn (hne n)⟩
    · -- anything else has to be a numeral, and no digit comes behind it
      obtain ⟨⟨n, r⟩, hscan, h⟩ := Option.map_eq_some_iff.1 h
      cases h
      obtain ⟨text, htext, hnumeral, hrest⟩ := Numeral.exists_numeralText_of_scan? hscan
      exact ⟨text, htext, .number hnumeral, fun _ _ => hrest⟩

/-! ### All tokens -/

/-- A token that comes first is the first of the tokens, and the text after it has the others. -/
theorem tokenizeChars?_of_scanToken? {c : Char} (hspace : isSpace c = false)
    (h : scanToken? (c :: cs) = some (t, rest)) :
    tokenizeChars? (c :: cs) = (t :: ·) <$> tokenizeChars? rest := by
  rw [tokenizeChars?, if_neg (by rw [hspace]; decide)]
  split
  · rename_i hnone
    rw [h] at hnone
    cases hnone
  · rename_i hsome
    rw [h] at hsome
    cases hsome
    rfl

/-- A text of a token is the first one of a text that starts with it. -/
theorem TokenText.tokenizeChars?_append (h : TokenText cs t)
    (hend : ∀ n, t = .number n → Numeral.NumeralEnd rest) :
    tokenizeChars? (cs ++ rest) = (t :: ·) <$> tokenizeChars? rest := by
  have hscan := h.scanToken?_append hend
  obtain ⟨c, ds, rfl, hc⟩ := h.exists_eq_cons
  have hspace : isSpace c = false := by
    simp only [isSpace, hc ' ' (by decide), hc '\t' (by decide), hc '\n' (by decide),
      hc '\r' (by decide), decide_false, Bool.or_self]
  exact tokenizeChars?_of_scanToken? hspace hscan

/-- A token that is no number does not prolong one. -/
theorem Token.numeralEnd_chars_append {t : Token} (h : ∀ n, t ≠ .number n) (rest : List Char) :
    Numeral.NumeralEnd (t.chars ++ rest) := by
  cases t with
  | openBrace | closeBrace | openBracket | closeBracket | colon | comma | null =>
    exact Numeral.numeralEnd_cons.2 (by decide)
  | bool b => cases b <;> exact Numeral.numeralEnd_cons.2 (by decide)
  | string s => cases s <;> exact Numeral.numeralEnd_cons.2 (by decide)
  | number n => exact absurd rfl (h n)

/-- A written token is the first one of a text that starts with it. -/
theorem tokenizeChars?_chars_append (h : t.EndsBefore rest) :
    tokenizeChars? (t.chars ++ rest) = (t :: ·) <$> tokenizeChars? rest :=
  (tokenText_chars fun n hn => (h n hn).1).tokenizeChars?_append fun n hn => (h n hn).2

end CanaryMetrics.Json
