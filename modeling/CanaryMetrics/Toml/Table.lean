import CanaryMetrics.Toml.Value

namespace CanaryMetrics.Toml

/-!
# Tables under construction

Entries and headers of a document add to its tables one after the other.  Whether one may add to a table
depends on how the table came about, so tables under construction remember that.

* `Node`, `Origin` — what stands under a key so far, and how a table came about.
* `Node.alter?` — changes the table at the end of a path.
* `Node.addEntry?` — adds a value under a dotted key.
* `Node.addTable?`, `Node.addElement?` — add what stands below a header `[path]` or `[[path]]`.
* `Node.value` — the finished value.
-/

/-- A dotted key: the keys of the tables on the way, and the last key. -/
structure Key where
  /-- The keys of the tables on the way, outermost first. -/
  path : List String
  /-- The last key. -/
  last : String
deriving DecidableEq, Repr

/-- How a table came about. -/
inductive Origin
  /-- A header, or the document, defines it. -/
  | defined
  /-- A header needs it on its path, but does not define it. -/
  | implied
  /-- A dotted key made it on its path. -/
  | dotted
deriving DecidableEq, Repr

/-- What stands under a key so far. -/
inductive Node
  /-- A value, which is closed: nothing can be added to it. -/
  | value (v : Value)
  /-- A table. -/
  | table (origin : Origin) (entries : List (String × Node))
  /-- The elements of an array of tables; the last one is open. -/
  | elements (tables : List (List (String × Node)))
deriving Inhabited

namespace Node

/-- The entries of a table under construction, in the order in which they were made. -/
abbrev Entries := List (String × Node)

/-! ### Changing what stands under one key -/

/-- What stands under a key. -/
def get? (key : String) (entries : Entries) : Option Node :=
  entries.lookup key

/-- Replaces what stands under a key, in its place. -/
def set (key : String) (node : Node) (entries : Entries) : Entries :=
  entries.map fun e => if e.1 = key then (key, node) else e

/-- Changes the last of several tables. -/
def alterLast? (f : Entries → Option Entries) : List Entries → Option (List Entries)
  | [] => none
  | [t] => (f t).map ([·])
  | t :: ts => (alterLast? f ts).map (t :: ·)

/-! ### Changing the table at the end of a path -/

/-- Changes the table at the end of a path with `f`, which is told how that table came about.  Tables
    that are missing on the path are made, and then came about by `origin`.  An array of tables stands
    for its last element.  A dotted key must not pass through a table that has been defined. -/
def alter? (origin : Origin) (f : Origin → Entries → Option Entries) :
    List String → Origin → Entries → Option Entries
  | [], self, entries => f self entries
  | key :: path, _, entries =>
    match get? key entries with
    | none => do
      let made ← alter? origin f path origin []
      pure (entries ++ [(key, table origin made)])
    | some (value _) => none
    | some (table self inner) =>
      if origin = .dotted ∧ self = .defined then none
      else do
        let changed ← alter? origin f path self inner
        pure (set key (table self changed) entries)
    | some (elements tables) => do
      let changed ← alterLast? (alter? origin f path .defined) tables
      pure (set key (elements changed) entries)

/-! ### Entries -/

/-- Adds a value under a dotted key to an open table.  The key must be new.  On the way it may pass only
    through tables that dotted keys have made. -/
def addEntry? (key : Key) (v : Value) (entries : Entries) : Option Entries :=
  alter? .dotted
    (fun self inner =>
      if (get? key.last inner).isSome ∨ (key.path ≠ [] ∧ self ≠ .dotted) then none
      else some (inner ++ [(key.last, value v)]))
    key.path .defined entries

/-- Adds values under dotted keys to an open table, one after the other. -/
def addEntries? (new : List (Key × Value)) (entries : Entries) : Option Entries :=
  new.foldlM (fun entries e => addEntry? e.1 e.2 entries) entries

/-! ### Headers -/

/-- Adds the table of a header `[key]` with the entries below the header.  A table that headers have
    implied before is completed, and then comes last; anything else under the key is a fault. -/
def addTable? (key : Key) (new : List (Key × Value)) (entries : Entries) : Option Entries :=
  alter? .implied
    (fun _ inner => do
      let started ← match get? key.last inner with
        | none => some []
        | some (table .implied implied) => some implied
        | some _ => none
      let completed ← addEntries? new started
      pure (inner.filter (·.1 ≠ key.last) ++ [(key.last, table .defined completed)]))
    key.path .defined entries

/-- Adds an element with the entries below a header `[[key]]` to an array of tables. -/
def addElement? (key : Key) (new : List (Key × Value)) (entries : Entries) : Option Entries :=
  alter? .implied
    (fun _ inner => do
      let element ← addEntries? new []
      match get? key.last inner with
      | none => pure (inner ++ [(key.last, elements [element])])
      | some (elements tables) => pure (set key.last (elements (tables ++ [element])) inner)
      | some _ => none)
    key.path .defined entries

/-! ### The finished value -/

mutual

/-- What stands under a key, as a value. -/
def finish : Node → Value
  | value v => v
  | table _ entries => .table (finishEntries entries)
  | elements tables => .array (finishTables tables)

/-- The entries of a table, as values. -/
def finishEntries : Entries → List (String × Value)
  | [] => []
  | (key, node) :: es => (key, node.finish) :: finishEntries es

/-- The elements of an array of tables, as values. -/
def finishTables : List Entries → List Value
  | [] => []
  | t :: ts => .table (finishEntries t) :: finishTables ts

end

/-! ### Unit test: completing an implied table, and adding to a closed or defined one -/

/-- The keys at the top after two headers, the first one for `a.b`. -/
private def keysAfter (second : Key) : Option (List String) := do
  let entries ← addTable? ⟨["a"], "b"⟩ [] []
  (← addTable? second [] entries).map (·.1)

example : keysAfter ⟨[], "a"⟩ = some ["a"] ∧ keysAfter ⟨[], "c"⟩ = some ["a", "c"] := by decide

example : keysAfter ⟨["a"], "b"⟩ = none := by decide

example : (addEntries? [(⟨["a"], "b"⟩, .integer 1), (⟨["a"], "c"⟩, .integer 2)] []).isSome = true
    ∧ (addEntries? [(⟨[], "a"⟩, .table []), (⟨["a"], "c"⟩, .integer 2)] []).isSome = false := by decide

end Node

end CanaryMetrics.Toml
