import CanaryMetrics.Catalog.Basic
import CanaryMetrics.Metric.Reader
import CanaryMetrics.Toml.Document

namespace CanaryMetrics.Catalog

open Datum

/-!
# Reading a catalog

* `Catalog.ofToml` — the catalog that a TOML text describes.
* `Catalog.ofMembers` — the catalog that the members of a map describe: under `defaults` the scope
  expression to use where none is given, under `metrics` the entries.
* `Entry.ofMembers` — the entry that the members of a map describe: its name, and next to it the
  members of its metric.

Unknown members are passed over everywhere.
-/

/-! ### The defaults -/

/-- The member of the defaults that holds the scope expression. -/
def expressionKey : String := "scope"

/-- The scope expression among the members of the defaults. -/
def defaultsOfMembers (members : List (Option String × Datum)) : Except ReadError (Option String) :=
  Option.join <$> readMembers (fun key => if key = expressionKey then some expressionKey else none)
    (fun slot name d => readOnce name slot (d.readOptional readString)) none members

/-- The defaults: a map, or a sequence that begins with the scope expression. -/
def readDefaults : Datum → Except ReadError (Option String)
  | .map members => defaultsOfMembers members
  | .sequence [] => .error (.shape (.emptySequence .defaults 1))
  | .sequence (d :: _) => d.readOptional readString
  | d => .error (d.mismatch .defaults)

/-! ### The entries -/

namespace Entry

/-- The member of an entry that holds its name. -/
def nameKey : String := "name"

/-- The name among the members of an entry. -/
def nameOfMembers (members : List (Option String × Datum)) : Except ReadError String := do
  match ← readMembers (fun key => if key = nameKey then some nameKey else none)
    (fun slot name d => readOnce name slot d.readString) none members with
  | some name => .ok name
  | none => .error (.shape (.missingField nameKey))

/-- The entry that the members of a map describe; its name is read before its metric. -/
def ofMembers (members : List (Option String × Datum)) : Except ReadError Entry := do
  let name ← nameOfMembers members
  let metric ← Metric.ofMembers (members.filter fun m => m.1 ≠ some nameKey)
  pure { name, metric }

end Entry

/-- An entry: a map. -/
def readEntry : Datum → Except ReadError Entry
  | .map members => Entry.ofMembers members
  | d => .error (d.mismatch .entry)

/-- The entries: a sequence. -/
def readEntries : Datum → Except ReadError (List Entry)
  | .sequence items => items.mapM readEntry
  | d => .error (d.mismatch .sequence)

/-! ### The catalog -/

/-- The fields of a catalog's description. -/
inductive Field
  /-- The defaults. -/
  | defaults
  /-- The entries. -/
  | entries
deriving DecidableEq, Repr

namespace Field

/-- The name of a field. -/
def name : Field → String
  | defaults => "defaults"
  | entries => "metrics"

/-- The field that a key names. -/
def ofKey? (key : String) : Option Field :=
  if key = defaults.name then some defaults
  else if key = entries.name then some entries
  else none

end Field

/-- What has been read of a catalog: each field once at most. -/
structure Draft where
  /-- The scope expression of the defaults. -/
  defaults : Option (Option String) := none
  /-- The entries. -/
  entries : Option (List Entry) := none
deriving DecidableEq, Repr

namespace Draft

/-- Reads one more field. -/
def read (draft : Draft) (field : Field) (d : Datum) : Except ReadError Draft :=
  match field with
  | .defaults => do
    pure { draft with defaults := ← readOnce field.name draft.defaults (readDefaults d) }
  | .entries => do
    pure { draft with entries := ← readOnce field.name draft.entries (readEntries d) }

/-- The catalog that has been read; nothing is mandatory. -/
def finish (draft : Draft) : Catalog where
  defaultExpression := draft.defaults.join
  entries := draft.entries.getD []

end Draft

/-- The catalog that the members of a map describe. -/
def ofMembers (members : List (Option String × Datum)) : Except ReadError Catalog :=
  Draft.finish <$> readMembers Field.ofKey? Draft.read {} members

/-- The catalog that a TOML text describes. -/
def ofToml (text : String) : Except ReadError Catalog :=
  match Toml.ofText? text with
  | none => .error .malformed
  | some entries => ofMembers (Toml.Value.entryData entries)

/-! ### Unit test: the defaults, and an entry of every shape -/

example :
    (ofToml "defaults = ['k:v', 1]\n[[metrics]]\nname = 'a'\nmetric_name = 'm'\ntags = \x7bt = 'x'\x7d\nmore = 1").toOption
      = some ⟨some "k:v", [⟨"a", { measurement := "m", tags := some (.ofList [("t", "x")]) }⟩]⟩ := by
  decide +kernel

example :
    (["defaults = []", "defaults = 1", "metrics = \x7b\x7d", "metrics = [1]", "metrics = [\x7bname = 1\x7d]",
        "metrics = [\x7bmetricName = 1\x7d]", "metrics = [\x7bname = '', fields = ''\x7d]"].map
      fun text => match ofToml text with
        | .error (.shape e) => e.message
        | _ => "")
      = ["invalid length 0, expected struct CatalogDefaults with 1 element",
        "invalid type: integer `1`, expected struct CatalogDefaults",
        "invalid type: map, expected a sequence",
        "invalid type: integer `1`, expected struct NamedMetricQuery",
        "invalid type: integer `1`, expected a string",
        "missing field `name`",
        "invalid type: string \"\", expected a sequence"] := by
  decide +kernel

end CanaryMetrics.Catalog
