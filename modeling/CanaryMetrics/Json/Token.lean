import CanaryMetrics.Json.Numeral
import CanaryMetrics.Text.Hex

namespace CanaryMetrics.Json

open Text

/-!
# JSON tokens

* `Token` — the tokens of a JSON text, strings decoded and numbers as they are spelled.
* `tokenize?` — the tokens of a text; white space between them is dropped.
* `Token.chars` — the shortest spelling of a token.

Inside a string an escape `\uXXXX` names one unit of UTF-16, so scanning a string and pairing its
surrogates are two steps: `scanString?` and `pairUnits?`.  Where the second one fails there still is a
string, but it stands for no text.
-/

/-- A token of a JSON text. -/
inductive Token
  /-- An opening brace. -/
  | openBrace
  /-- A closing brace. -/
  | closeBrace
  /-- An opening bracket. -/
  | openBracket
  /-- A closing bracket. -/
  | closeBracket
  /-- A colon. -/
  | colon
  /-- A comma. -/
  | comma
  /-- The word `null`. -/
  | null
  /-- One of the words `true` and `false`. -/
  | bool (b : Bool)
  /-- A number. -/
  | number (n : Numeral)
  /-- A string: its text with all escapes decoded, none when there is half a surrogate pair in it. -/
  | string (s : Option String)
deriving DecidableEq, Repr

/-! ### Scanning a string -/

/-- One piece of a string: a character, or the unit of UTF-16 that an escape names. -/
inductive Piece
  /-- A character that stands for itself or is named by a short escape. -/
  | char (c : Char)
  /-- A unit of UTF-16. -/
  | unit (u : Nat)
deriving DecidableEq, Repr

/-- The character that the letter of a short escape names. -/
def shortEscape? : Char → Option Char
  | '"' => some '"'
  | '\\' => some '\\'
  | '/' => some '/'
  | 'b' => some '\x08'
  | 'f' => some '\x0c'
  | 'n' => some '\n'
  | 'r' => some '\r'
  | 't' => some '\t'
  | _ => none

/-- The pieces of a string up to its closing quote, and the text after that; the opening quote has been
    taken off. -/
def scanString? : List Char → Option (List Piece × List Char)
  | [] => none
  | '"' :: cs => some ([], cs)
  | '\\' :: 'u' :: a :: b :: c :: d :: cs => do
    let u ← hexNumber? [a, b, c, d]
    let (ps, rest) ← scanString? cs
    pure (.unit u :: ps, rest)
  | '\\' :: e :: cs => do
    let c ← shortEscape? e
    let (ps, rest) ← scanString? cs
    pure (.char c :: ps, rest)
  | c :: cs =>
    if c.toNat < 0x20 ∨ c = '\\' then none
    else do
      let (ps, rest) ← scanString? cs
      pure (.char c :: ps, rest)

/-- Is the unit the first half of a surrogate pair? -/
def isHighSurrogate (u : Nat) : Bool := 0xD800 ≤ u && u < 0xDC00

/-- Is the unit the second half of a surrogate pair? -/
def isLowSurrogate (u : Nat) : Bool := 0xDC00 ≤ u && u < 0xE000

/-- The characters that pieces stand for.  The two halves of a surrogate pair are escapes next to each
    other; half a pair stands for nothing. -/
def pairUnits? : List Piece → Option (List Char)
  | [] => some []
  | .char c :: ps => (c :: ·) <$> pairUnits? ps
  | .unit u :: ps =>
    if isHighSurrogate u then
      match ps with
      | .unit v :: qs =>
        if isLowSurrogate v then
          (Char.ofNat (0x10000 + (u - 0xD800) * 0x400 + (v - 0xDC00)) :: ·) <$> pairUnits? qs
        else none
      | _ => none
    else if isLowSurrogate u then none
    else (Char.ofNat u :: ·) <$> pairUnits? ps

/-- Scanning a string leaves less text than there was. -/
theorem length_of_scanString? {cs rest : List Char} {ps : List Piece}
    (h : scanString? cs = some (ps, rest)) : rest.length < cs.length := by
  -- whatever is read first, the rest is what the scanner leaves of a shorter text
  fun_induction scanString? cs generalizing ps with
  | case1 => cases h
  | case2 cs => cases h; simp
  | case3 a b c d cs ih =>
    simp only [bind, Option.bind_eq_some_iff, pure, Option.some.injEq, Prod.mk.injEq, Prod.exists] at h
    obtain ⟨_, -, qs, r, hr, -, rfl⟩ := h
    have := ih hr
    simp; omega
  | case4 e cs _ ih =>
    simp only [bind, Option.bind_eq_some_iff, pure, Option.some.injEq, Prod.mk.injEq, Prod.exists] at h
    obtain ⟨_, -, qs, r, hr, -, rfl⟩ := h
    have := ih hr
    simp; omega
  | case5 => cases h
  | case6 c cs _ _ _ _ ih =>
    simp only [bind, Option.bind_eq_some_iff, pure, Option.some.injEq, Prod.mk.injEq, Prod.exists] at h
    obtain ⟨qs, r, hr, -, rfl⟩ := h
    have := ih hr
    simp; omega

/-! ### Tokenizing -/

/-- White space between tokens: space, tab, line feed and carriage return. -/
def isSpace (c : Char) : Bool :=
  c = ' ' || c = '\t' || c = '\n' || c = '\r'

/-- The tokens that are one fixed character. -/
def punctuation? : Char → Option Token
  | '{' => some .openBrace
  | '}' => some .closeBrace
  | '[' => some .openBracket
  | ']' => some .closeBracket
  | ':' => some .colon
  | ',' => some .comma
  | _ => none

/-- The token that a text starts with when its first character is not white space, and the text after
    the token. -/
def scanToken? : List Char → Option (Token × List Char)
  | '"' :: cs => do
    let (ps, rest) ← scanString? cs
    pure (.string (String.ofList <$> pairUnits? ps), rest)
  | 'n' :: 'u' :: 'l' :: 'l' :: cs => some (.null, cs)
  | 't' :: 'r' :: 'u' :: 'e' :: cs => some (.bool true, cs)
  | 'f' :: 'a' :: 'l' :: 's' :: 'e' :: cs => some (.bool false, cs)
  | [] => none
  | c :: cs =>
    match punctuation? c with
    | some t => some (t, cs)
    | none => (Numeral.scan? (c :: cs)).map fun p => (.number p.1, p.2)

/-- A token that is scanned is taken off the text. -/
theorem length_of_scanToken? {cs rest : List Char} {t : Token}
    (h : scanToken? cs = some (t, rest)) : rest.length < cs.length := by
  unfold scanToken? at h
  split at h
  · simp only [bind, Option.bind_eq_some_iff, pure, Option.some.injEq, Prod.mk.injEq, Prod.exists] at h
    obtain ⟨_, r, hr, -, rfl⟩ := h
    have := length_of_scanString? hr
    simp; omega
  · cases h; simp; omega
  · cases h; simp; omega
  · cases h; simp; omega
  · cases h
  · split at h
    · cases h; simp
    · obtain ⟨⟨n, r⟩, hr, h⟩ := Option.map_eq_some_iff.1 h
      cases h
      exact Numeral.length_of_scan? hr

/-- The tokens of a text, if it consists of tokens and white space only. -/
def tokenizeChars? (cs : List Char) : Option (List Token) :=
  match cs with
  | [] => some []
  | c :: rest =>
    if isSpace c then tokenizeChars? rest
    else
      match _ : scanToken? (c :: rest) with
      | none => none
      | some (t, rest') => (t :: ·) <$> tokenizeChars? rest'
termination_by cs.length
decreasing_by
  · simp
  · exact length_of_scanToken? ‹_›

/-- The tokens of a text, if it consists of tokens and white space only. -/
def tokenize? (s : String) : Option (List Token) :=
  tokenizeChars? s.toList

/-! ### Spelling -/

/-- A character of a string: quote, backslash and control characters are escaped, by a short escape if
    they have one, and everything else stands for itself. -/
def escape (c : Char) : List Char :=
  if c = '"' then ['\\', '"']
  else if c = '\\' then ['\\', '\\']
  else if c = '\x08' then ['\\', 'b']
  else if c = '\x0c' then ['\\', 'f']
  else if c = '\n' then ['\\', 'n']
  else if c = '\r' then ['\\', 'r']
  else if c = '\t' then ['\\', 't']
  else if c.toNat < 0x20 then
    ['\\', 'u', '0', '0', hexChar (c.toNat / 16), hexChar (c.toNat % 16)]
  else [c]

/-- A string in quotes. -/
def quoteChars (cs : List Char) : List Char :=
  '"' :: cs.flatMap escape ++ ['"']

/-- A token as text. -/
def Token.chars : Token → List Char
  | openBrace => ['{']
  | closeBrace => ['}']
  | openBracket => ['[']
  | closeBracket => [']']
  | colon => [':']
  | comma => [',']
  | null => ['n', 'u', 'l', 'l']
  | bool true => ['t', 'r', 'u', 'e']
  | bool false => ['f', 'a', 'l', 's', 'e']
  | number n => n.chars
  | string (some s) => quoteChars s.toList
  | string none => ['"', '\\', 'u', 'd', '8', '0', '0', '"']

/-! ### Unit test: escapes, a surrogate pair and half of one -/

example : tokenizeChars? (" [ \"\\u0041\\ud83d\\uDE00\\n\" ,-1.50E+2]").toList
    = some [.openBracket, .string (some "A😀\n"), .comma,
        .number ⟨true, ['1'], ['5', '0'], some (false, ['2'])⟩, .closeBracket] := by
  decide +kernel

example : ["\"\\ud83d\"", "\"\\ude00\\ud83d\"", "\"\\ud83dx\""].map tokenize?
    = List.replicate 3 (some [.string none]) := by
  decide +kernel

example : ["\"\\ud83\"", "\"\t\"", "\"", "nul"].map tokenize? = List.replicate 4 none := by decide +kernel

example : String.ofList (Token.string (some "a\"/\u001b\t\u007f")).chars = "\"a\\\"/\\u001b\\t\u007f\"" := by
  decide

end CanaryMetrics.Json
