import CanaryMetrics.Text.Hex
import CanaryMetrics.Text.Unprintable

namespace CanaryMetrics.Text

/-!
# Quoted strings in messages

* `quoted` — a string between double quotes, with the characters escaped that would not show.
-/

/-- A character of a quoted string: the quote, the backslash and the characters that do not show are
    escaped, other characters stand for themselves. -/
def escapeQuoted (c : Char) : List Char :=
  if c = '"' then ['\\', '"']
  else if c = '\\' then ['\\', '\\']
  else if c = '\n' then ['\\', 'n']
  else if c = '\r' then ['\\', 'r']
  else if c = '\t' then ['\\', 't']
  else if c = '\x00' then ['\\', '0']
  else if isUnprintable c then
    ['\\', 'u', '{'] ++ Nat.toDigits 16 c.toNat ++ ['}']
  else [c]

/-- A string between double quotes. -/
def quoted (s : String) : String :=
  String.ofList ('"' :: s.toList.flatMap escapeQuoted ++ ['"'])

/-! ### Unit test: what is escaped and what is not -/

example : quoted "a\"b\\c\n" = "\"a\\\"b\\\\c\\n\"" ∧ quoted "it's é\u0301" = "\"it's é\\u\x7b301\x7d\"" := by
  decide +kernel

end CanaryMetrics.Text
