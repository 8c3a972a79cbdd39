import CanaryMetrics.Text.Hex

namespace CanaryMetrics.Text

/-!
# Text that does nothing to a terminal

* `isCommand`, `isHighControl` — the control characters that a terminal may take for a command or for
  the beginning of one.  Tabs and line ends are not among them.
* `harmless` — a text in which each of them is spelled instead: those of ASCII as `\x` with two
  hexadecimal digits, the others as `\u` with their digits between braces.

Backslashes are left alone, so the text cannot be told from one that had the spelling to begin with.
-/

/-- The control characters of ASCII that a terminal may take for a command: the bell, the backspace, the
    form feed, the escape and the delete character. -/
def isCommand (c : Char) : Bool :=
  c = '\x07' || c = '\x08' || c = '\x0c' || c = '\x1b' || c = '\x7f'

/-- The control characters beyond ASCII, from `U+0080` to `U+009F`. -/
def isHighControl (c : Char) : Bool :=
  0x80 ≤ c.toNat && c.toNat ≤ 0x9F

/-- A character as it stands in a harmless text. -/
def spellControl (c : Char) : List Char :=
  if isCommand c then ['\\', 'x', hexChar (c.toNat / 16), hexChar (c.toNat % 16)]
  else if isHighControl c then ['\\', 'u', '{'] ++ Nat.toDigits 16 c.toNat ++ ['}']
  else [c]

/-- A text in which characters that control a terminal are spelled. -/
def harmless (s : String) : String :=
  String.ofList (s.toList.flatMap spellControl)

/-! ### Unit test: an escape sequence, both spellings, and what is left alone -/

example : harmless "\u001b[0m\u0007\u007f\u0080\u009f" = "\\x1b[0m\\x07\\x7f\\u\x7b80\x7d\\u\x7b9f\x7d" := by
  decide +kernel

example : harmless "\t\n\r\u0000\u000b\u00a0\\x1b é" = "\t\n\r\u0000\u000b\u00a0\\x1b é" := by decide +kernel

end CanaryMetrics.Text
