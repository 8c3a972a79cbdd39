import CanaryMetrics.Environment.Basic
import CanaryMetrics.Text.Alphanumeric

namespace CanaryMetrics.Environment

open Text

/-!
# Values with variables in them

A value is written between quotes or without them.  Between single quotes every character stands for
itself; elsewhere a backslash announces a character and a dollar sign a variable, `$name` or
`$` and a name in braces.  A blank ends a value that stands outside quotes; only a comment may follow.

* `Template` — a value that variables still have to be put into.
* `Template.read?` — the template that a written value stands for, if it is well formed.
* `Template.expand` — the value, with the variables' values put in.
-/

/-- A part of a value. -/
inductive Piece
  /-- A character that stands for itself. -/
  | char (c : Char)
  /-- A mention of a name; the name's value is to be put in its place. -/
  | reference (name : String)
deriving DecidableEq, Repr

/-- A value that variables still have to be put into. -/
abbrev Template := List Piece

/-! ### Putting values in -/

/-- What stands in the place of a piece; a name without a value leaves nothing. -/
def Piece.expand (env : Environment) : Piece → List Char
  | char c => [c]
  | reference name => ((env.get? name).getD "").toList

/-- The value of a template. -/
def Template.expand (env : Environment) (t : Template) : String :=
  String.ofList (t.flatMap (Piece.expand env))

/-- The names that a template mentions. -/
def Template.mentions (t : Template) : List String :=
  t.filterMap fun
    | .char _ => none
    | .reference name => some name

/-! ### Reading a template -/

/-- Where the reader of a value stands.  Outside single quotes it matters whether double quotes are open. -/
inductive Position
  /-- Before a character that stands for itself, unless it is a special one. -/
  | text (quotes : Bool)
  /-- After a backslash. -/
  | escape (quotes : Bool)
  /-- In the name of a variable, after the dollar sign. -/
  | name (quotes : Bool) (name : List Char)
  /-- In the name of a variable between braces. -/
  | braces (quotes : Bool) (name : List Char)
  /-- Between single quotes. -/
  | verbatim
  /-- After the blank that ends the value. -/
  | ended
  /-- In the comment after the value. -/
  | comment
deriving DecidableEq, Repr

/-- The character that a backslash announces. -/
def announced? : Char → Option Char
  | 'n' => some '\n'
  | c => if c ∈ ['\\', '\'', '"', '$', ' '] then some c else none

namespace Position

/-- The position after a character that begins no name and no escape of its own, between double quotes or
    outside them. -/
def afterText (quotes : Bool) (c : Char) : Position × Template :=
  if c = '$' then (.name quotes [], [])
  else if c = '\\' then (.escape quotes, [])
  else if c = '"' then (.text !quotes, [])
  else if quotes then (.text true, [.char c])
  else if c = '\'' then (.verbatim, [])
  else if c = ' ' ∨ c = '\t' then (.ended, [])
  else (.text false, [.char c])

/-- The position after a character, and the pieces that are complete with it.  A name without braces ends
    with the first character that is neither a letter nor a digit; that character stands for itself, unless
    it announces the next variable. -/
def next? : Position → Char → Option (Position × Template)
  | text quotes, c => some (afterText quotes c)
  | escape quotes, c => (announced? c).map fun c => (.text quotes, [.char c])
  | name quotes n, c =>
    if isAlphanumeric c then some (.name quotes (n ++ [c]), [])
    else if c = '\x7b' ∧ n = [] then some (.braces quotes [], [])
    else if c = '$' then some (.name quotes [], [.reference (String.ofList n)])
    else some (.text quotes, [.reference (String.ofList n), .char c])
  | braces quotes n, c =>
    if c = '\x7d' then some (.text quotes, [.reference (String.ofList n)])
    else some (.braces quotes (n ++ [c]), [])
  | verbatim, c => some (if c = '\'' then (.text false, []) else (.verbatim, [.char c]))
  | ended, c =>
    if c = ' ' ∨ c = '\t' then some (.ended, [])
    else if c = '#' then some (.comment, [])
    else none
  | comment, _ => some (.comment, [])

/-- The pieces that are complete when the value ends here; quotes and braces must be closed by then. -/
def last? : Position → Option Template
  | text quotes => if quotes then none else some []
  | escape quotes => if quotes then none else some []
  | name quotes n => if quotes then none else some [.reference (String.ofList n)]
  | braces _ _ => none
  | verbatim => none
  | ended => some []
  | comment => some []

/-- The pieces of a text that is read from a position on. -/
def read? (p : Position) : List Char → Option Template
  | [] => p.last?
  | c :: cs => do
    let (p', pieces) ← p.next? c
    let rest ← p'.read? cs
    pure (pieces ++ rest)

end Position

/-- The template that a written value stands for. -/
def Template.read? (cs : List Char) : Option Template :=
  Position.read? (.text false) cs

/-! ### Unit test: values with their meaning -/

example :
    let env : Environment := ⟨[("A", "x y"), ("B", "")]⟩
    (["a.b", "'$A'c # d", "\"$\x7bA\x7d\"", "$A-$B$A.", "\\$A\\n", "$\x7bA", "a b", "\"a", "\"$A\"", "a'b\"'\" # \""].map
      fun s => (Template.read? s.toList).map (Template.expand env))
      = [some "a.b", some "$Ac", some "x y", some "x y-x y.", some "$A\n", none, none, none, none,
        some "ab\" # "] := by
  decide +kernel

end CanaryMetrics.Environment
