import CanaryMetrics.Toml.Scalar
import CanaryMetrics.Toml.Strings
import CanaryMetrics.Toml.Table

namespace CanaryMetrics.Toml

/-!
# Keys, values and lines of TOML

* `readKey?`, `readValue?`, `readLine?` — a dotted key, a value and a line at the start of a text, with
  the text after them.
* `readLines?` — the lines of a whole text.

Arrays and inline tables nest to `nestingLimit` levels; the levels that are left are the fuel of
`readValue?`.  The loops within one level are measured by the length of the text.
-/

/-- What reads something at the start of a text and gives it with the text after it. -/
abbrev Reader (α : Type) := List Char → Option (α × List Char)

/-- Containers are nested, and keys are dotted, to less than this depth. -/
def nestingLimit : Nat := 80

/-! ### Blanks, comments and line ends -/

/-- A text without the blanks at its start. -/
def skipBlanks (cs : List Char) : List Char :=
  cs.dropWhile isBlank

/-- A text without the comment at its start, if there is one. -/
def skipComment : List Char → List Char
  | '#' :: cs => cs.dropWhile isPlain
  | cs => cs

/-- The text after a line end; the end of the text ends a line too. -/
def lineEnd? : List Char → Option (List Char)
  | [] => some []
  | '\n' :: cs => some cs
  | '\r' :: '\n' :: cs => some cs
  | _ => none

/-- The text after the rest of a line that holds blanks and a comment at most. -/
def endOfLine? (cs : List Char) : Option (List Char) :=
  lineEnd? (skipComment (skipBlanks cs))

/-- A text without the blanks, line ends and comments at its start.  `inComment` tells whether the text
    starts within a comment. -/
def skipGap (inComment : Bool) : List Char → List Char
  | [] => []
  | '\n' :: cs => skipGap false cs
  | '\r' :: '\n' :: cs => skipGap false cs
  | c :: cs =>
    if inComment then if isPlain c then skipGap true cs else c :: cs
    else if isBlank c then skipGap false cs
    else if c = '#' then skipGap true cs
    else c :: cs

/-- Skipping a gap never lengthens a text. -/
theorem length_skipGap_le (inComment : Bool) (cs : List Char) :
    (skipGap inComment cs).length ≤ cs.length := by
  fun_induction skipGap inComment cs <;> simp_all <;> omega

/-! ### Keys -/

/-- The characters of keys without quotes. -/
def isBareKeyChar (c : Char) : Bool :=
  c.isAlphanum || c = '-' || c = '_'

/-- A key without dots: bare, or a string on a single line. -/
def readSimpleKey? : Reader String
  | '"' :: cs => readBasic? cs
  | '\'' :: cs => readLiteral? cs
  | cs =>
    let key := cs.takeWhile isBareKeyChar
    if key = [] then none else some (String.ofList key, cs.dropWhile isBareKeyChar)

/-- A dotted key of at most `parts` parts, with blanks around each part. -/
def readKeyParts? : (parts : Nat) → Reader Key
  | 0, _ => none
  | parts + 1, cs => do
    let (key, cs) ← readSimpleKey? (skipBlanks cs)
    match skipBlanks cs with
    | '.' :: cs =>
      let (rest, cs) ← readKeyParts? parts cs
      pure (⟨key :: rest.path, rest.last⟩, cs)
    | cs => pure (⟨[], key⟩, cs)

/-- A dotted key. -/
def readKey? : Reader Key :=
  readKeyParts? (nestingLimit - 1)

/-- A dotted key, an equals sign and what `read` reads. -/
def readAssignment? (read : Reader α) : Reader (Key × α) := fun cs => do
  let (key, cs) ← readKey? cs
  match cs with
  | '=' :: cs =>
    let (a, cs) ← read (skipBlanks cs)
    pure ((key, a), cs)
  | _ => none

/-! ### Values -/

/-- The items of an array up to its closing bracket: commas between, perhaps one after the last, and gaps
    around each item. -/
def readItems? (read : Reader α) (cs : List Char) : Option (List α × List Char) :=
  match skipGap false cs with
  | ']' :: rest => some ([], rest)
  | start => do
    let (a, after) ← read start
    match skipGap false after with
    | ']' :: rest => pure ([a], rest)
    | ',' :: rest =>
      if rest.length < cs.length then do
        let (as, rest) ← readItems? read rest
        pure (a :: as, rest)
      else none
    | _ => none
termination_by cs.length

/-- The members of an inline table up to its closing brace, of which there is at least one: commas
    between, none after the last. -/
def readInlineMembers? (read : Reader α) (cs : List Char) : Option (List α × List Char) := do
  let (a, after) ← read cs
  match skipBlanks after with
  | '}' :: rest => pure ([a], rest)
  | ',' :: rest =>
    if rest.length < cs.length then do
      let (as, rest) ← readInlineMembers? read rest
      pure (a :: as, rest)
    else none
  | _ => none
termination_by cs.length

/-- The value that is a word at the start of a text.  A date may be followed by a space and a time. -/
def readWord? : Reader Value := fun cs =>
  let word := cs.takeWhile Scalar.isWordChar
  let rest := cs.dropWhile Scalar.isWordChar
  match (DateTime.readDate? word).map (·.2), rest with
  | some [], ' ' :: d :: ds =>
    if d.isDigit then
      let time := (d :: ds).takeWhile Scalar.isWordChar
      (Scalar.ofWord? (word ++ ' ' :: time)).map (·, (d :: ds).dropWhile Scalar.isWordChar)
    else (Scalar.ofWord? word).map (·, rest)
  | _, _ => (Scalar.ofWord? word).map (·, rest)

/-- A value in which containers nest to at most `levels` levels. -/
def readValue? : (levels : Nat) → Reader Value
  | 0, cs =>
    match cs with
    | '"' :: _ | '\'' :: _ => (readString? cs).map fun p => (.string p.1, p.2)
    | _ => readWord? cs
  | levels + 1, cs =>
    match cs with
    | '"' :: _ | '\'' :: _ => (readString? cs).map fun p => (.string p.1, p.2)
    | '[' :: cs => do
      let (items, cs) ← readItems? (readValue? levels) cs
      pure (.array items, cs)
    | '{' :: cs =>
      match skipBlanks cs with
      | '}' :: cs => some (.table [], cs)
      | cs => do
        let (members, cs) ← readInlineMembers? (readAssignment? (readValue? levels)) cs
        let entries ← Node.addEntries? members []
        pure (.table (Node.finishEntries entries), cs)
    | _ => readWord? cs

/-! ### Lines -/

/-- A line of a document. -/
inductive Line
  /-- A line that holds blanks and a comment at most. -/
  | blank
  /-- A value under a dotted key. -/
  | entry (key : Key) (v : Value)
  /-- The header of a table. -/
  | table (key : Key)
  /-- The header of an element of an array of tables. -/
  | element (key : Key)
deriving Repr

/-- A line, with its end. -/
def readLine? : Reader Line := fun cs =>
  match skipBlanks cs with
  | '[' :: '[' :: cs => do
    let (key, cs) ← readKey? cs
    match cs with
    | ']' :: ']' :: cs => (endOfLine? cs).map (.element key, ·)
    | _ => none
  | '[' :: cs => do
    let (key, cs) ← readKey? cs
    match cs with
    | ']' :: cs => (endOfLine? cs).map (.table key, ·)
    | _ => none
  | cs =>
    match endOfLine? cs with
    | some rest => some (.blank, rest)
    | none => do
      let ((key, v), cs) ← readAssignment? (readValue? (nestingLimit - 1)) cs
      (endOfLine? cs).map (.entry key v, ·)

/-- The lines of a text. -/
def readLines? (cs : List Char) : Option (List Line) :=
  if cs = [] then some []
  else do
    let (line, rest) ← readLine? cs
    if rest.length < cs.length then (line :: ·) <$> readLines? rest else none
termination_by cs.length

end CanaryMetrics.Toml
