import CanaryMetrics.Json.Record
import CanaryMetrics.Proofs.Json.Tokens

namespace CanaryMetrics.Json

/-!
# The spelling of a text

Texts can differ in the white space between their tokens and in the escapes of their strings, and still
consist of the same tokens.

* `Spells` — a text consists of certain tokens.
* `tokenize?_eq_some_iff` — the tokens of a text are those that it consists of.
* `ofJson_eq_of_spells` — so what is read does not depend on how the tokens are spelled.
-/

/-- A text consists of tokens, which are spelled one after the other with white space anywhere between
    them.  Nothing prolongs a number. -/
inductive Spells : List Char → List Token → Prop
  /-- No token. -/
  | nil : Spells [] []
  /-- White space is dropped. -/
  | space {c : Char} {cs : List Char} {ts : List Token} (hc : c ∈ [' ', '\t', '\n', '\r'])
    (hrest : Spells cs ts) : Spells (c :: cs) ts
  /-- A text of a token, and more tokens. -/
  | token {cs rest : List Char} {t : Token} {ts : List Token} (htoken : TokenText cs t)
    (hend : ∀ n, t = .number n → Numeral.NumeralEnd rest) (hrest : Spells rest ts) :
    Spells (cs ++ rest) (t :: ts)

theorem isSpace_iff {c : Char} : isSpace c = true ↔ c ∈ [' ', '\t', '\n', '\r'] := by
  simp only [isSpace, Bool.or_eq_true, decide_eq_true_eq, List.mem_cons, List.not_mem_nil, or_false,
    or_assoc]

/-- What tokens can be scanned from does not prolong a number, unless it starts with a digit. -/
theorem Spells.numeralEnd {cs : List Char} {ts : List Token} (h : Spells cs ts)
    (hdigit : Text.NoDigitFirst cs) : Numeral.NumeralEnd cs := by
  cases h with
  | nil => exact Numeral.numeralEnd_nil
  | space hc =>
    simp only [List.mem_cons, List.not_mem_nil, or_false] at hc
    rcases hc with rfl | rfl | rfl | rfl <;> exact Numeral.numeralEnd_cons.2 (by decide)
  | token htoken =>
    obtain ⟨c, ds, rfl, hc⟩ := htoken.exists_eq_cons
    exact Numeral.numeralEnd_cons.2 ⟨Text.noDigitFirst_cons.1 hdigit, hc '.' (by decide),
      hc 'e' (by decide), hc 'E' (by decide)⟩

theorem tokenizeChars?_eq_some_iff {cs : List Char} {ts : List Token} :
    tokenizeChars? cs = some ts ↔ Spells cs ts := by
  constructor
  · intro h
    -- left of each token there may be white space, and each token takes off at least one character
    fun_induction tokenizeChars? cs generalizing ts with
    | case1 =>
      cases h
      exact .nil
    | case2 c rest hspace ih => exact .space (isSpace_iff.1 hspace) (ih h)
    | case3 => cases h
    | case4 c rest hspace t rest' hscan ih =>
      obtain ⟨us, hus, rfl⟩ := Option.map_eq_some_iff.1 h
      obtain ⟨text, htext, htoken, hdigit⟩ := exists_tokenText_of_scanToken? hscan
      have hrest : Spells rest' us := ih hus
      rw [htext]
      exact .token htoken (fun n hn => hrest.numeralEnd (hdigit n hn)) hrest
  · intro h
    -- a numeral has to be followed by something that does not prolong it, which the grammar grants
    induction h with
    | nil => rw [tokenizeChars?]
    | space hc _ ih => rw [tokenizeChars?, if_pos (isSpace_iff.2 hc), ih]
    | token htoken hend _ ih =>
      rw [htoken.tokenizeChars?_append hend, ih, Option.map_eq_map, Option.map_some]

/-- **The tokens of a text.**  A text is taken apart into the tokens that it consists of, if there are
    any. -/
theorem tokenize?_eq_some_iff {text : String} {ts : List Token} :
    tokenize? text = some ts ↔ Spells text.toList ts :=
  tokenizeChars?_eq_some_iff

/-- A text spells the value that its tokens spell. -/
theorem ofText?_eq_some_iff {text : String} {v : Value} :
    Value.ofText? text = some v ↔ ∃ ts, Spells text.toList ts ∧ Value.ofTokens? ts = some v := by
  simp only [Value.ofText?, Option.bind_eq_bind, Option.bind_eq_some_iff, tokenize?_eq_some_iff]

/-- Texts that consist of the same tokens are read in the same way. -/
theorem readJson_eq_of_spells {α : Type} {text text' : String} {ts : List Token}
    (h : Spells text.toList ts) (h' : Spells text'.toList ts) (read : Datum → Except ReadError α) :
    readJson read text = readJson read text' := by
  unfold readJson Value.ofText?
  rw [tokenize?_eq_some_iff.2 h, tokenize?_eq_some_iff.2 h']

/-- **Spelling makes no difference.**  A text spells a value exactly if it consists of the value's tokens,
    with white space between them, numbers with any letter and sign of the exponent, and strings of
    characters, short escapes and units of UTF-16 in digits of either case.  Two texts that consist of the
    same tokens, whatever these tokens are, are read as the same metric and the same scope, or there is the
    same error. -/
theorem ofJson_eq_of_spells :
    (∀ text v, Value.ofText? text = some v ↔
      ∃ ts, Spells text.toList ts ∧ Value.ofTokens? ts = some v) ∧
    ∀ text text' ts, Spells text.toList ts → Spells text'.toList ts →
      Metric.ofJson text = Metric.ofJson text' ∧ Scope.ofJson text = Scope.ofJson text' :=
  ⟨fun _ _ => ofText?_eq_some_iff,
    fun _ _ _ h h' => ⟨readJson_eq_of_spells h h' _, readJson_eq_of_spells h h' _⟩⟩

/-- The members of a metric and of a scope, and one that is neither's. -/
def plainText : String :=
  "\x7b\"metricName\":\"cpu😀\",\"start\":\"1970-01-01T00:00:00Z\",\"x\":[[1.5e3,\x7b\"a/b\":\"é\"\x7d]]\x7d"

/-- The same with white space, and with escapes in keys, in the instant and in what is passed over. -/
def escapedText : String :=
  " \x7b \"\\u006detric\\u004Eame\" : \"cpu\\ud83d\\uDE00\",\n\"st\\u0061rt\":\"1970-01-01T00:00:00\\u005a\","
    ++ "\t\"\\u0078\":[ [1.5E+3 ,\x7b\"a\\/b\":\"\\u00e9\"\x7d]]\x7d\r\n"

/-- The tokens of either text. -/
def commonTokens : List Token :=
  [.openBrace, .string (some "metricName"), .colon, .string (some "cpu😀"), .comma,
    .string (some "start"), .colon, .string (some "1970-01-01T00:00:00Z"), .comma,
    .string (some "x"), .colon, .openBracket, .openBracket,
    .number ⟨false, ['1'], ['5'], some (false, ['3'])⟩, .comma,
    .openBrace, .string (some "a/b"), .colon, .string (some "é"), .closeBrace,
    .closeBracket, .closeBracket, .closeBrace]

/-- Both texts are read as one metric and as one scope. -/
theorem ofJson_eq_of_spells_of_escapes :
    (Spells plainText.toList commonTokens ∧ Spells escapedText.toList commonTokens) ∧
      (Metric.ofJson plainText = Metric.ofJson escapedText ∧
        Scope.ofJson plainText = Scope.ofJson escapedText) ∧
      (Metric.ofJson plainText).toOption = some { measurement := "cpu😀" } ∧
      (Scope.ofJson plainText).toOption = some { start := some { seconds := 0, nanos := 0 } } := by
  have hplain : Spells plainText.toList commonTokens := tokenize?_eq_some_iff.1 (by decide +kernel)
  have hescaped : Spells escapedText.toList commonTokens := tokenize?_eq_some_iff.1 (by decide +kernel)
  exact ⟨⟨hplain, hescaped⟩, ofJson_eq_of_spells.2 plainText escapedText commonTokens hplain hescaped,
    by decide +kernel, by decide +kernel⟩

end CanaryMetrics.Json
