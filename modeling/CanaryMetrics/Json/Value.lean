import CanaryMetrics.Json.Token

namespace CanaryMetrics.Json

/-!
# JSON values

* `Value` — a JSON value; members stand in document order and may repeat a key.
* `Value.tokens` — the tokens of a value.
* `Value.ofTokens?` — the value that tokens spell, if they spell exactly one.  It takes one token at a
  time and keeps the containers that are still open on a stack.
* `Value.text`, `Value.ofText?` — the same for the text of a value.
-/

/-- A JSON value. -/
inductive Value
  /-- The value `null`. -/
  | null
  /-- A truth value. -/
  | bool (b : Bool)
  /-- A number, as it is spelled. -/
  | number (n : Numeral)
  /-- A string; none when it stands for no text. -/
  | string (s : Option String)
  /-- An array. -/
  | array (items : List Value)
  /-- An object: its members in document order, with none for a key that stands for no text. -/
  | object (members : List (Option String × Value))
deriving Repr, Inhabited

namespace Value

/-! ### From a value to tokens -/

mutual

/-- The tokens of a value. -/
def tokens : Value → List Token
  | null => [.null]
  | bool b => [.bool b]
  | number n => [.number n]
  | string s => [.string s]
  | array items => .openBracket :: itemTokens items ++ [.closeBracket]
  | object members => .openBrace :: memberTokens members ++ [.closeBrace]

/-- The tokens of the items of an array, with commas between. -/
def itemTokens : List Value → List Token
  | [] => []
  | [v] => v.tokens
  | v :: w :: vs => v.tokens ++ .comma :: itemTokens (w :: vs)

/-- The tokens of the members of an object, with commas between. -/
def memberTokens : List (Option String × Value) → List Token
  | [] => []
  | [(key, v)] => .string key :: .colon :: v.tokens
  | (key, v) :: m :: ms => .string key :: .colon :: v.tokens ++ .comma :: memberTokens (m :: ms)

end

/-- A value as text, without white space. -/
def text (v : Value) : String :=
  String.ofList (v.tokens.flatMap Token.chars)

/-! ### From tokens to a value -/

/-- A container that is still open; what is in it so far is in reverse order. -/
inductive Frame
  /-- An array. -/
  | array (items : List Value)
  /-- An object, and the key of the member whose value comes next. -/
  | object (members : List (Option String × Value)) (key : Option String)

/-- What the tokens read so far amount to, and which tokens can follow.  Each state but the last has the
    containers that are open, the innermost first. -/
inductive State
  /-- A value follows. -/
  | value (stack : List Frame)
  /-- An array has just been opened: a value follows, or the closing bracket. -/
  | firstItem (stack : List Frame)
  /-- An item of an array is complete: a comma follows, or the closing bracket. -/
  | afterItem (items : List Value) (stack : List Frame)
  /-- An object has just been opened: a key follows, or the closing brace. -/
  | firstKey (stack : List Frame)
  /-- A key follows, after a comma. -/
  | nextKey (members : List (Option String × Value)) (stack : List Frame)
  /-- The colon after a key follows. -/
  | colon (members : List (Option String × Value)) (key : Option String) (stack : List Frame)
  /-- A member of an object is complete: a comma follows, or the closing brace. -/
  | afterMember (members : List (Option String × Value)) (stack : List Frame)
  /-- The whole value is complete: nothing follows. -/
  | done (v : Value)

namespace State

/-- The state after a value has been completed within the open containers. -/
def complete (v : Value) : List Frame → State
  | [] => .done v
  | .array items :: stack => .afterItem (v :: items) stack
  | .object members key :: stack => .afterMember ((key, v) :: members) stack

/-- The state after the first token of a value. -/
def startValue (stack : List Frame) : Token → Option State
  | .null => some (complete .null stack)
  | .bool b => some (complete (.bool b) stack)
  | .number n => some (complete (.number n) stack)
  | .string s => some (complete (.string s) stack)
  | .openBracket => some (.firstItem stack)
  | .openBrace => some (.firstKey stack)
  | _ => none

/-- The state after one more token, if the token can stand there. -/
def step : State → Token → Option State
  | .value stack, t => startValue stack t
  | .firstItem stack, .closeBracket => some (complete (.array []) stack)
  | .firstItem stack, t => startValue (.array [] :: stack) t
  | .afterItem items stack, .comma => some (.value (.array items :: stack))
  | .afterItem items stack, .closeBracket => some (complete (.array items.reverse) stack)
  | .firstKey stack, .closeBrace => some (complete (.object []) stack)
  | .firstKey stack, .string key => some (.colon [] key stack)
  | .nextKey members stack, .string key => some (.colon members key stack)
  | .colon members key stack, .colon => some (.value (.object members key :: stack))
  | .afterMember members stack, .comma => some (.nextKey members stack)
  | .afterMember members stack, .closeBrace => some (complete (.object members.reverse) stack)
  | _, _ => none

end State

/-- The value that tokens spell, if they spell exactly one. -/
def ofTokens? (ts : List Token) : Option Value :=
  match ts.foldlM State.step (.value []) with
  | some (.done v) => some v
  | _ => none

/-- The value that a text spells, if it spells exactly one. -/
def ofText? (s : String) : Option Value := do
  ofTokens? (← tokenize? s)

/-! ### Unit test: nesting, and tokens that spell no value -/

example : (ofText? "[1,[],\x7b\x7d,\x7b\"a\":null,\"a\":[true]\x7d]").map text
    = some "[1,[],\x7b\x7d,\x7b\"a\":null,\"a\":[true]\x7d]" := by decide +kernel

example : ["", "1 2", "[1,]", "\x7b\"a\"\x7d", "\x7b\"a\":1,\x7d", "]", "[1\x7d"].all
    (fun s => (ofText? s).isNone) = true := by decide +kernel

end Value

end CanaryMetrics.Json
