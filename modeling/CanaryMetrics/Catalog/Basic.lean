import CanaryMetrics.Query.Build

namespace CanaryMetrics

/-!
# Catalogs

* `Catalog` — metrics under names of their own, and a scope expression to use where none is given.
* `Catalog.metric?` — the metric of a name; the first entry of that name counts.
* `Catalog.queries` — the query of every entry for one scope, in catalog order.
-/

/-- A metric under a name of its own. -/
structure Catalog.Entry where
  /-- The name, which need not be the measurement's and need not be unique. -/
  name : String
  /-- The metric. -/
  metric : Metric
deriving DecidableEq, Repr

/-- The metrics that a canary compares. -/
structure Catalog where
  /-- The scope expression to use where none is given. -/
  defaultExpression : Option String := none
  /-- The entries, in the order in which they were written. -/
  entries : List Catalog.Entry := []
deriving DecidableEq, Repr, Inhabited

namespace Catalog

/-- The names of the entries. -/
def names (c : Catalog) : List String :=
  c.entries.map Entry.name

/-- The metric of a name; of several entries with that name the first one counts. -/
def metric? (c : Catalog) (name : String) : Option Metric :=
  (c.entries.find? fun e => e.name = name).map Entry.metric

/-- The query of every entry for one scope, each with the entry's name.  An entry without a query does
    not affect the others. -/
def queries (c : Catalog) (scope : Scope) : List (String × Except BuildError String) :=
  c.entries.map fun e => (e.name, e.metric.query (some scope))

/-- A metric is found exactly for the names of entries. -/
theorem metric?_isSome_iff (c : Catalog) (name : String) :
    (c.metric? name).isSome ↔ name ∈ c.names := by
  simp [metric?, names]

end Catalog

end CanaryMetrics
