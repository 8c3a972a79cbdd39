import CanaryMetrics.Toml.Syntax

namespace CanaryMetrics.Toml

/-!
# TOML documents

A document is a sequence of sections: entries at the top, then headers with the entries below them.

* `sections` — the sections of a sequence of lines.
* `build?` — the table that sections define, if they agree with each other.
* `ofText?` — the table that a text defines.
-/

/-- The header of a section. -/
inductive Header
  /-- A table. -/
  | table (key : Key)
  /-- An element of an array of tables. -/
  | element (key : Key)
deriving DecidableEq, Repr

/-- A header and the entries below it. -/
structure Section where
  /-- The header. -/
  header : Header
  /-- The entries, in document order. -/
  entries : List (Key × Value)
deriving Repr

/-- The entries above the first header, and the sections. -/
def sections : List Line → List (Key × Value) × List Section
  | [] => ([], [])
  | .blank :: lines => sections lines
  | .entry key v :: lines =>
    let (top, rest) := sections lines
    ((key, v) :: top, rest)
  | .table key :: lines =>
    let (below, rest) := sections lines
    ([], ⟨.table key, below⟩ :: rest)
  | .element key :: lines =>
    let (below, rest) := sections lines
    ([], ⟨.element key, below⟩ :: rest)

/-- Adds a section to the tables of a document. -/
def addSection? (entries : Node.Entries) (s : Section) : Option Node.Entries :=
  match s.header with
  | .table key => Node.addTable? key s.entries entries
  | .element key => Node.addElement? key s.entries entries

/-- The table that entries at the top and sections define. -/
def build? (top : List (Key × Value)) (rest : List Section) : Option (List (String × Value)) := do
  let entries ← Node.addEntries? top []
  Node.finishEntries <$> rest.foldlM addSection? entries

/-- A text without the mark of byte order that may stand at its start. -/
def dropByteOrderMark : List Char → List Char
  | '\uFEFF' :: cs => cs
  | cs => cs

/-- The table that a text defines. -/
def ofText? (s : String) : Option (List (String × Value)) := do
  let lines ← readLines? (dropByteOrderMark s.toList)
  let (top, rest) := sections lines
  build? top rest

/-! ### Unit test: which texts define a table -/

example : ["", "# c", "a = 1\r\nb.c = [1, [], # c\n 'x',\n]", "[[a]]\n[a.b]\n[[a]]", "[a.b]\n[a]\nc = \x7bd.e = 1\x7d",
      "a = 1979-05-27 07:32:00 # c", "\uFEFFx = \"\"\"\n\"\"\""].all
    (fun s => (ofText? s).isSome) = true := by decide +kernel

example : ["a", "a = 1 b = 2", "a = 1\na = 2", "[a]\n[a]", "[a]\n[[a]]", "[[a]]\n[a]", "a = []\n[[a]]", "a.b = 1\n[a]",
      "a = \x7bb = 1,\x7d", "a = \x7bb = 1\n\x7d", "a = [1 2]", "# \x01", "a\r= 1", "[ [a]]", "a = 1979-05-27 7"].all
    (fun s => (ofText? s).isNone) = true := by decide +kernel

end CanaryMetrics.Toml
