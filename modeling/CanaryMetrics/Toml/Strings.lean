import CanaryMetrics.Text.Hex

namespace CanaryMetrics.Toml

open Text

/-!
# TOML strings

A string stands between quotes or apostrophes, one for a string on a single line and three for one over
several lines.  Only between quotes has a backslash a meaning.

* `readBasic?`, `readLiteral?` — strings on a single line, after the opening mark.
* `readMultilineBasic?`, `readMultilineLiteral?` — strings over several lines, after the opening marks.
* `readString?` — a string of any of the four kinds.

A string is read in two steps: its body is cut out up to the closing mark, and then the body is decoded.
-/

/-- Text inside a string or a comment may hold any character but control characters other than tab. -/
def isPlain (c : Char) : Bool :=
  c = '\t' || (0x20 ≤ c.toNat && c.toNat ≠ 0x7F)

/-- Space and tab. -/
def isBlank (c : Char) : Bool :=
  c = ' ' || c = '\t'

/-! ### Escapes -/

/-- The character that the letter of a short escape names. -/
def shortEscape? : Char → Option Char
  | 'b' => some '\x08'
  | 't' => some '\t'
  | 'n' => some '\n'
  | 'f' => some '\x0c'
  | 'r' => some '\r'
  | '"' => some '"'
  | '\\' => some '\\'
  | _ => none

/-- The character whose number stands in exactly `width` hexadecimal digits at the start of a text. -/
def codePoint? (width : Nat) (cs : List Char) : Option Char := do
  let n ← if (cs.take width).length = width then hexNumber? (cs.take width) else none
  if n.isValidChar then pure (Char.ofNat n) else none

/-- Decodes the body of a string between quotes.  Over several lines, a backslash at the end of a line
    takes away the line's end and all blanks and line ends after it. -/
def unescape? (multiline : Bool) (cs : List Char) : Option (List Char) :=
  match cs with
  | [] => some []
  | c :: cs =>
    if c = '\\' then
      match cs with
      | [] => none
      | e :: rest =>
        if e = 'u' then do
          let c ← codePoint? 4 rest
          (c :: ·) <$> unescape? multiline (rest.drop 4)
        else if e = 'U' then do
          let c ← codePoint? 8 rest
          (c :: ·) <$> unescape? multiline (rest.drop 8)
        else if multiline ∧ ((e :: rest).dropWhile isBlank).head? = some '\n' then
          unescape? multiline ((e :: rest).dropWhile fun c => isBlank c || c = '\n')
        else do
          let c ← shortEscape? e
          (c :: ·) <$> unescape? multiline rest
    else if isPlain c ∨ (multiline ∧ c = '\n') then (c :: ·) <$> unescape? multiline cs
    else none
termination_by cs.length
decreasing_by
  · simp only [List.length_drop, List.length_cons]; omega
  · simp only [List.length_drop, List.length_cons]; omega
  · have := (List.dropWhile_suffix (l := e :: rest) fun c => isBlank c || c = '\n').length_le
    simp only [List.length_cons] at this ⊢; omega
  · simp only [List.length_cons]; omega
  · simp only [List.length_cons]; omega

/-! ### Strings on a single line -/

/-- The body of a string up to its closing quote, and the text after that; a backslash keeps the
    character after it. -/
def basicBody? : List Char → Option (List Char × List Char)
  | [] => none
  | '"' :: cs => some ([], cs)
  | '\\' :: c :: cs => (basicBody? cs).map fun p => ('\\' :: c :: p.1, p.2)
  | c :: cs => (basicBody? cs).map fun p => (c :: p.1, p.2)

/-- A string on a single line, after its opening quote. -/
def readBasic? (cs : List Char) : Option (String × List Char) := do
  let (body, rest) ← basicBody? cs
  pure (String.ofList (← unescape? false body), rest)

/-- A string on a single line, after its opening apostrophe. -/
def readLiteral? (cs : List Char) : Option (String × List Char) :=
  let body := cs.takeWhile (· ≠ '\'')
  match cs.dropWhile (· ≠ '\'') with
  | _ :: rest => if body.all isPlain then some (String.ofList body, rest) else none
  | [] => none

/-! ### Strings over several lines -/

/-- The end of a string at the start of a text: three marks, after up to two more that belong to the
    string.  Gives the marks that belong to the string and the text after the end. -/
def closing? (mark : Char) (cs : List Char) : Option (List Char × List Char) :=
  let marks := (cs.takeWhile (· = mark)).take 5
  if 3 ≤ marks.length then some (marks.drop 3, cs.drop marks.length) else none

/-- The body of a string up to its closing marks, and the text after them; where escapes are allowed a
    backslash keeps the character after it. -/
def multilineBody? (mark : Char) (escapes : Bool) : List Char → Option (List Char × List Char)
  | [] => none
  | c :: cs =>
    match closing? mark (c :: cs) with
    | some found => some found
    | none =>
      if escapes ∧ c = '\\' then
        match cs with
        | [] => none
        | d :: ds => (multilineBody? mark escapes ds).map fun p => (c :: d :: p.1, p.2)
      else (multilineBody? mark escapes cs).map fun p => (c :: p.1, p.2)

/-- Text with each pair of carriage return and line feed made a line feed; no other carriage return is
    allowed. -/
def normalizeLineEnds? : List Char → Option (List Char)
  | [] => some []
  | '\r' :: '\n' :: cs => ('\n' :: ·) <$> normalizeLineEnds? cs
  | c :: cs => if c = '\r' then none else (c :: ·) <$> normalizeLineEnds? cs

/-- Text without a line end at its very start. -/
def dropLineEnd : List Char → List Char
  | '\n' :: cs => cs
  | cs => cs

/-- A string over several lines, after its three opening quotes. -/
def readMultilineBasic? (cs : List Char) : Option (String × List Char) := do
  let (body, rest) ← multilineBody? '"' true cs
  let body ← unescape? true (dropLineEnd (← normalizeLineEnds? body))
  pure (String.ofList body, rest)

/-- A string over several lines, after its three opening apostrophes. -/
def readMultilineLiteral? (cs : List Char) : Option (String × List Char) := do
  let (body, rest) ← multilineBody? '\'' false cs
  let body := dropLineEnd (← normalizeLineEnds? body)
  if body.all fun c => isPlain c || c = '\n' then pure (String.ofList body, rest) else none

/-- A string of any kind. -/
def readString? : List Char → Option (String × List Char)
  | '"' :: '"' :: '"' :: cs => readMultilineBasic? cs
  | '"' :: cs => readBasic? cs
  | '\'' :: '\'' :: '\'' :: cs => readMultilineLiteral? cs
  | '\'' :: cs => readLiteral? cs
  | _ => none

/-! ### Unit test: strings of each kind, and broken ones -/

/-- The string that is the whole text. -/
private def wholeString (s : String) : Option String :=
  match readString? s.toList with
  | some (s, []) => some s
  | _ => none

example : ["\"a\\tb\\u00e9\\U0001F600\"", "'a\\'", "\"\"\"\na\\  \n \n b\"\"\"\"\"", "'''a\r\nb'c'''", "\"\""].map
      wholeString
    = ["a\tbé😀", "a\\", "ab\"\"", "a\nb'c", ""].map some := by decide +kernel

example : ["\"\\x41\"", "\"\\ud800\"", "\"a\nb\"", "\"a", "\"\"\"a\"\"\"\"\"\"", "\"\"\"a\\ b\"\"\"", "'\x7f'",
      "'''a\rb'''", "\"a\\"].map wholeString = List.replicate 9 none := by decide +kernel

end CanaryMetrics.Toml
