import CanaryMetrics.Proofs.Json.Utf16

namespace CanaryMetrics.Json

open Text

/-!
# Strings and their texts

A character of a string can be spelled in several ways.  Whichever it is, it is scanned as one piece,
whatever follows it.

* `HexDigit`, `HexNumber` — the digits of an escape, small or capital.
* `PieceText`, `BodyText` — the texts of a piece, and of the pieces between two quotes.
* `scanString?_eq_some_iff` — these are scanned as a string, up to its closing quote, and no others are.
* `StandsFor`, `ofList_pairUnits?_eq_iff` — the text that the pieces stand for, if there is one.
* `bodyText_flatMap_escape` — what is written of a string is a text of it.
-/

/-! ### Hexadecimal digits -/

/-- The digit of a number below 16; a letter is small or capital. -/
def HexDigit (c : Char) (n : Nat) : Prop :=
  n < 16 ∧ (c = hexChar n ∨ c = (hexChar n).toUpper)

/-- Four digits of a number. -/
inductive HexNumber : List Char → Nat → Prop
  /-- The highest digit comes first. -/
  | intro {a b c d : Char} {k l m n : Nat} (ha : HexDigit a k) (hb : HexDigit b l) (hc : HexDigit c m)
    (hd : HexDigit d n) : HexNumber [a, b, c, d] (0x1000 * k + 0x100 * l + 0x10 * m + n)

/-- A character that is a digit is one of the first 128. -/
theorem toNat_lt_of_hexDigit? {c : Char} {n : Nat} (h : hexDigit? c = some n) : c.toNat < 128 := by
  have hle : ∀ d : Char, c ≤ d → c.toNat ≤ d.toNat := fun d h => UInt32.le_iff_toNat_le.1 h
  unfold hexDigit? at h
  split at h
  · exact Nat.lt_of_le_of_lt (hle '9' (‹_ ∧ _›).2) (by decide)
  · split at h
    · exact Nat.lt_of_le_of_lt (hle 'f' (‹_ ∧ _›).2) (by decide)
    · split at h
      · exact Nat.lt_of_le_of_lt (hle 'F' (‹_ ∧ _›).2) (by decide)
      · cases h

theorem hexDigit?_eq_some_iff {c : Char} {n : Nat} : hexDigit? c = some n ↔ HexDigit c n := by
  constructor
  · intro h
    -- whatever is read is an ASCII character, so that there are 128 cases to look at
    have hdigits : ∀ k : Fin 128, ∀ n ∈ hexDigit? (Char.ofNat k), n < 16 ∧
        (Char.ofNat k = hexChar n ∨ Char.ofNat k = (hexChar n).toUpper) := by decide +kernel
    have hdigit := hdigits ⟨c.toNat, toNat_lt_of_hexDigit? h⟩ n
    rw [Char.ofNat_toNat] at hdigit
    exact hdigit h
  · -- and 16 digits in the other direction
    have hdigits : ∀ k : Fin 16, hexDigit? (hexChar k) = some k.val ∧
        hexDigit? (hexChar k).toUpper = some k.val := by decide +kernel
    rintro ⟨hn, rfl | rfl⟩
    · exact (hdigits ⟨n, hn⟩).1
    · exact (hdigits ⟨n, hn⟩).2

theorem hexNumber?_eq_some_iff {a b c d : Char} {u : Nat} :
    hexNumber? [a, b, c, d] = some u ↔ HexNumber [a, b, c, d] u := by
  simp only [hexNumber?, List.foldlM_cons, List.foldlM_nil, Option.bind_eq_bind, Option.bind_eq_some_iff,
    Option.map_eq_some_iff, Option.pure_def, Option.some.injEq, hexDigit?_eq_some_iff]
  constructor
  · rintro ⟨_, ⟨k, ha, rfl⟩, _, ⟨l, hb, rfl⟩, _, ⟨m, hc, rfl⟩, _, ⟨n, hd, rfl⟩, rfl⟩
    -- the reader goes on from digit to digit, the grammar gives each its weight
    have hu : 16 * (16 * (16 * (16 * 0 + k) + l) + m) + n = 0x1000 * k + 0x100 * l + 0x10 * m + n := by
      omega
    rw [hu]
    exact .intro ha hb hc hd
  · rintro ⟨ha, hb, hc, hd⟩
    exact ⟨_, ⟨_, ha, rfl⟩, _, ⟨_, hb, rfl⟩, _, ⟨_, hc, rfl⟩, _, ⟨_, hd, rfl⟩, by omega⟩

/-- Four digits spell a unit of UTF-16. -/
theorem HexNumber.lt {cs : List Char} {u : Nat} (h : HexNumber cs u) : u < 0x10000 := by
  obtain ⟨⟨ha, -⟩, ⟨hb, -⟩, ⟨hc, -⟩, ⟨hd, -⟩⟩ := h
  omega

/-! ### Pieces -/

/-- The short escapes: a letter, and the character that it names. -/
def shortEscapes : List (Char × Char) :=
  [('"', '"'), ('\\', '\\'), ('/', '/'), ('b', '\x08'), ('f', '\x0c'), ('n', '\n'), ('r', '\r'),
    ('t', '\t')]

theorem shortEscape?_eq_some_iff {e c : Char} : shortEscape? e = some c ↔ (e, c) ∈ shortEscapes := by
  constructor
  · intro h
    unfold shortEscape? at h
    split at h
    all_goals cases h
    all_goals decide
  · intro h
    simp only [shortEscapes, List.mem_cons, Prod.mk.injEq, List.not_mem_nil, or_false] at h
    rcases h with ⟨rfl, rfl⟩ | ⟨rfl, rfl⟩ | ⟨rfl, rfl⟩ | ⟨rfl, rfl⟩ | ⟨rfl, rfl⟩ | ⟨rfl, rfl⟩ |
      ⟨rfl, rfl⟩ | ⟨rfl, rfl⟩ <;> rfl

/-- A text of a piece of a string. -/
inductive PieceText : List Char → Piece → Prop
  /-- A character other than the quote, the backslash and the control characters stands for itself. -/
  | self {c : Char} (hquote : c ≠ '"') (hbackslash : c ≠ '\\') (hcontrol : ¬ c.toNat < 0x20) :
    PieceText [c] (.char c)
  /-- A short escape. -/
  | short {e c : Char} (h : (e, c) ∈ shortEscapes) : PieceText ['\\', e] (.char c)
  /-- The digits of a unit of UTF-16. -/
  | unit {ds : List Char} {u : Nat} (h : HexNumber ds u) : PieceText ('\\' :: 'u' :: ds) (.unit u)

/-- A text of pieces, one after the other. -/
inductive BodyText : List Char → List Piece → Prop
  /-- No piece. -/
  | nil : BodyText [] []
  /-- A piece and more pieces. -/
  | cons {cs ds : List Char} {p : Piece} {ps : List Piece} (hpiece : PieceText cs p)
    (hbody : BodyText ds ps) : BodyText (cs ++ ds) (p :: ps)

variable {cs rest : List Char} {p : Piece} {ps : List Piece}

/-- A text of a piece is scanned as that piece, whatever follows. -/
theorem PieceText.scanString?_append (h : PieceText cs p) (rest : List Char) :
    scanString? (cs ++ rest) = (scanString? rest).map fun q => (p :: q.1, q.2) := by
  cases h with
  | @self c hquote hbackslash hcontrol =>
    -- the scanner looks for a quotation mark and for escapes first, of which this is none
    show scanString? (c :: rest) = _
    rw [scanString?, if_neg (not_or.2 ⟨hcontrol, hbackslash⟩)]
    · cases scanString? rest <;> rfl
    · exact hquote
    · intro _ _ _ _ _ h
      exact absurd h hbackslash
    · intro _ _ h
      exact absurd h hbackslash
  | @short e c h =>
    -- `u` begins four digits, and is not one of the short escapes
    have he : e ≠ 'u' := by
      rintro rfl
      simp [shortEscapes] at h
    show scanString? ('\\' :: e :: rest) = _
    rw [scanString?, shortEscape?_eq_some_iff.2 h]
    · cases scanString? rest <;> rfl
    · intro _ _ _ _ _ hu
      exact absurd hu he
  | unit h =>
    obtain ⟨ha, hb, hc, hd⟩ := h
    have hu := hexNumber?_eq_some_iff.2 (HexNumber.intro ha hb hc hd)
    simp only [List.cons_append, List.nil_append]
    rw [scanString?, hu]
    cases scanString? rest <;> rfl

/-- **Strings are scanned.**  What is scanned up to the closing quote is a text of the pieces. -/
theorem scanString?_eq_some_iff :
    scanString? cs = some (ps, rest) ↔ ∃ body, cs = body ++ '"' :: rest ∧ BodyText body ps := by
  constructor
  · intro h
    -- the cases are the ways to go on: the end of the text, the closing quotation mark, an escaped
    -- unit, a short escape, a character that has to be escaped, and one that stands for itself
    fun_induction scanString? cs generalizing ps with
    | case1 => cases h
    | case2 cs =>
      cases h
      exact ⟨[], rfl, .nil⟩
    | case3 a b c d cs ih =>
      simp only [bind, Option.bind_eq_some_iff, pure, Option.some.injEq, Prod.mk.injEq, Prod.exists] at h
      obtain ⟨u, hu, qs, r, hr, rfl, rfl⟩ := h
      obtain ⟨body, rfl, hbody⟩ := ih hr
      exact ⟨_, rfl, .cons (.unit (hexNumber?_eq_some_iff.1 hu)) hbody⟩
    | case4 e cs _ ih =>
      simp only [bind, Option.bind_eq_some_iff, pure, Option.some.injEq, Prod.mk.injEq, Prod.exists] at h
      obtain ⟨c, hc, qs, r, hr, rfl, rfl⟩ := h
      obtain ⟨body, rfl, hbody⟩ := ih hr
      exact ⟨_, rfl, .cons (.short (shortEscape?_eq_some_iff.1 hc)) hbody⟩
    | case5 => cases h
    | case6 c cs hquote _ _ hself ih =>
      simp only [bind, Option.bind_eq_some_iff, pure, Option.some.injEq, Prod.mk.injEq, Prod.exists] at h
      obtain ⟨qs, r, hr, rfl, rfl⟩ := h
      obtain ⟨body, rfl, hbody⟩ := ih hr
      obtain ⟨hcontrol, hbackslash⟩ := not_or.1 hself
      exact ⟨_, rfl, .cons (.self hquote hbackslash hcontrol) hbody⟩
  · rintro ⟨body, rfl, hbody⟩
    induction hbody with
    | nil => rfl
    | cons hpiece _ ih => rw [List.append_assoc, hpiece.scanString?_append, ih, Option.map_some]

/-- The units that escapes name are units of UTF-16. -/
theorem BodyText.unit_lt (h : BodyText cs ps) {u : Nat} (hu : .unit u ∈ ps) : u < 0x10000 := by
  induction h with
  | nil => cases hu
  | cons hpiece _ ih =>
    rcases List.mem_cons.1 hu with rfl | hu
    · cases hpiece with
      | unit h => exact h.lt
    · exact ih hu

/-! ### What a string stands for -/

/-- What units of UTF-16 stand for: the text with these units, or none if no text has them. -/
inductive StandsFor : List Nat → Option String → Prop
  /-- The units of a text. -/
  | text (s : String) : StandsFor (s.toList.flatMap utf16) (some s)
  /-- Half a surrogate pair is among the units. -/
  | none {us : List Nat} (h : ∀ s : String, us ≠ s.toList.flatMap utf16) : StandsFor us none

/-- A string is decoded as what the units of its pieces stand for. -/
theorem BodyText.ofList_pairUnits?_eq_iff (h : BodyText cs ps) {s? : Option String} :
    String.ofList <$> pairUnits? ps = s? ↔ StandsFor (ps.flatMap Piece.units) s? := by
  -- pairing the units gives exactly the characters whose units they are
  have hpair : ∀ {cs : List Char}, pairUnits? ps = some cs ↔ ps.flatMap Piece.units = cs.flatMap utf16 :=
    pairUnits?_eq_some_iff fun u => h.unit_lt
  constructor
  · rintro rfl
    cases hcs : pairUnits? ps with
    | none =>
      -- units that cannot be paired are those of no text, for a text would have been found
      refine .none fun s hs => ?_
      rw [hpair.2 hs] at hcs
      cases hcs
    | some cs =>
      have htext := StandsFor.text (String.ofList cs)
      rw [String.toList_ofList, ← hpair.1 hcs] at htext
      exact htext
  · intro hs
    generalize hus : ps.flatMap Piece.units = us at hs
    cases hs with
    | text s =>
      rw [hpair.2 hus, Option.map_eq_map, Option.map_some, String.ofList_toList]
    | none hnone =>
      cases hcs : pairUnits? ps with
      | none => rfl
      | some cs =>
        refine absurd ?_ (hnone (String.ofList cs))
        rw [← hus, String.toList_ofList, hpair.1 hcs]

/-! ### Written strings -/

/-- What is written of a character is a text of a piece with the character's units: a short escape, the
    digits of its code point, or the character itself. -/
theorem pieceText_escape (c : Char) : ∃ p, PieceText (escape c) p ∧ p.units = utf16 c := by
  by_cases hspecial : c ∈ ['"', '\\', '\x08', '\x0c', '\n', '\r', '\t']
  · simp only [List.mem_cons, List.not_mem_nil, or_false] at hspecial
    refine ⟨.char c, ?_, rfl⟩
    rcases hspecial with rfl | rfl | rfl | rfl | rfl | rfl | rfl <;>
      exact .short (by decide)
  · -- all tests for a short escape fail, and the code point decides
    simp only [List.mem_cons, List.not_mem_nil, or_false, not_or] at hspecial
    obtain ⟨hquote, hbackslash, hb, hf, hn, hr, ht⟩ := hspecial
    unfold escape
    rw [if_neg hquote, if_neg hbackslash, if_neg hb, if_neg hf, if_neg hn, if_neg hr, if_neg ht]
    by_cases hcontrol : c.toNat < 0x20
    · rw [if_pos hcontrol]
      refine ⟨.unit c.toNat, .unit (hexNumber?_eq_some_iff.1 (hexNumber?_two_digits (by omega))), ?_⟩
      rw [Piece.units, utf16, if_pos (by omega)]
    · rw [if_neg hcontrol]
      exact ⟨.char c, .self hquote hbackslash hcontrol, rfl⟩

/-- What is written of a string is a text of pieces with the string's units. -/
theorem bodyText_flatMap_escape (cs : List Char) :
    ∃ ps, BodyText (cs.flatMap escape) ps ∧ ps.flatMap Piece.units = cs.flatMap utf16 := by
  induction cs with
  | nil => exact ⟨[], .nil, rfl⟩
  | cons c cs ih =>
    obtain ⟨p, hpiece, hp⟩ := pieceText_escape c
    obtain ⟨ps, hbody, hps⟩ := ih
    refine ⟨p :: ps, ?_, ?_⟩
    · rw [List.flatMap_cons]
      exact .cons hpiece hbody
    · rw [List.flatMap_cons, List.flatMap_cons, hp, hps]

end CanaryMetrics.Json
