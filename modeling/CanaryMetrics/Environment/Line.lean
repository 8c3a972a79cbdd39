import CanaryMetrics.Environment.Template

namespace CanaryMetrics.Environment

open Text

/-!
# Lines of an environment file

* `joinLines` — lines whose quotes are still open, or that end with a blank, go on in the next line.
* `Assignment` — a variable and the template of its value.
* `Assignment.ofLine?` — the assignment in a line, if the line is well formed; a line may hold none.
-/

/-! ### Joining lines -/

/-- What the end of a line leaves open. -/
inductive Open
  /-- Nothing: the line is complete. -/
  | nothing
  /-- A blank, after which a comment may begin. -/
  | blank
  /-- A backslash outside quotes. -/
  | escape
  /-- A single quote. -/
  | single
  /-- A backslash after a single quote. -/
  | singleEscape
  /-- A double quote. -/
  | double
  /-- A backslash after a double quote. -/
  | doubleEscape
deriving DecidableEq, Repr

namespace Open

/-- What is open after a character that opens something of its own. -/
def opening? : Char → Option Open
  | '\\' => some .escape
  | '"' => some .double
  | '\'' => some .single
  | _ => none

/-- What is open after a further character. -/
def next : Open → Char → Open
  | nothing, c =>
    if isBlank c ∧ c ≠ '\n' ∧ c ≠ '\r' then .blank else (opening? c).getD .nothing
  | blank, c => (opening? c).getD .nothing
  | escape, _ => .nothing
  | single, c => if c = '\\' then .singleEscape else if c = '\'' then .nothing else .single
  | singleEscape, _ => .single
  | double, c => if c = '\\' then .doubleEscape else if c = '"' then .nothing else .double
  | doubleEscape, _ => .double

/-- The part of a line in front of a comment, and what is open at the line's end unless there is a
    comment.  A comment begins with a sharp sign after a single blank. -/
def scan : Open → List Char → List Char × Option Open
  | o, [] => ([], some o)
  | .blank, '#' :: _ => ([], none)
  | o, c :: cs =>
    let (kept, left) := scan (o.next c) cs
    (c :: kept, left)

end Open

/-- Tells whether a text is empty or a comment. -/
def isVoid : List Char → Bool
  | [] => true
  | c :: _ => c = '#'

/-- Tells whether a text is a comment, perhaps after blanks. -/
def isComment (cs : List Char) : Bool :=
  (trimStart cs).head? = some '#'

/-- The complete lines that raw lines make up; `pending` is what the lines so far leave open.  Comments
    are left out, and so is a last line that is not complete. -/
def joinLines (pending : List Char) (o : Open) : List (List Char) → List (List Char)
  | [] => []
  | line :: lines =>
    if isComment (pending ++ line) then joinLines [] .nothing lines
    else
      match o.scan line with
      | (kept, none) => (pending ++ kept) :: joinLines [] .nothing lines
      | (kept, some .nothing) => (pending ++ kept) :: joinLines [] .nothing lines
      | (kept, some left) => joinLines (pending ++ kept) left lines

/-! ### Reading an assignment -/

/-- A variable and the template of its value. -/
structure Assignment where
  /-- The variable. -/
  name : String
  /-- The value, into which variables still have to be put. -/
  value : Template
deriving DecidableEq, Repr

namespace Assignment

/-- Tells whether a character may begin a name. -/
def isNameStart (c : Char) : Bool :=
  c.isAlpha || c = '_'

/-- Tells whether a character may go on a name. -/
def isNamePart (c : Char) : Bool :=
  c.isAlphanum || c = '_' || c = '.'

/-- The name that a text begins with, and the text after it and the blanks that follow. -/
def splitName? : List Char → Option (List Char × List Char)
  | [] => none
  | c :: cs =>
    if isNameStart c then some (c :: cs.takeWhile isNamePart, trimStart (cs.dropWhile isNamePart)) else none

/-- The text after the sign between a name and a value, and the blanks that follow. -/
def afterSign? : List Char → Option (List Char)
  | '=' :: cs => some (trimStart cs)
  | _ => none

/-- The word that may stand in front of a name. -/
def exportWord : List Char :=
  "export".toList

/-- The name that a line assigns to, and what is assigned.  The word in front of a name is a name itself
    where the sign follows. -/
def split? (cs : List Char) : Option (List Char × List Char) := do
  let (name, rest) ← splitName? cs
  match afterSign? rest with
  | some value => pure (name, value)
  | none =>
    if name = exportWord then
      let (name, rest) ← splitName? rest
      let value ← afterSign? rest
      pure (name, value)
    else none

/-- The assignment of a line that is neither empty nor a comment. -/
def read? (cs : List Char) : Option Assignment := do
  let (name, value) ← split? cs
  let value ← if isVoid value then some [] else Template.read? value
  pure ⟨String.ofList name, value⟩

/-- The assignment in a line, if the line is well formed; an empty line and a comment hold none. -/
def ofLine? (line : List Char) : Option (Option Assignment) :=
  let cs := trimStart (trimEnd line)
  if isVoid cs then some none else some <$> read? cs

end Assignment

/-! ### Unit test: lines with what they assign -/

example :
    (["A=1", "export A_.b = '2' # c", "export=3", "A=", "A = # c", "", "# c", "1=2", "A", "export A", "A=1 2"].map
      fun s => (Assignment.ofLine? s.toList).map fun a? => a?.map fun a => (a.name, Template.expand ⟨[]⟩ a.value))
      = [some (some ("A", "1")), some (some ("A_.b", "2")), some (some ("export", "3")), some (some ("A", "")),
        some (some ("A", "")), some none, some none, none, none, none, none] := by
  decide +kernel

end CanaryMetrics.Environment
