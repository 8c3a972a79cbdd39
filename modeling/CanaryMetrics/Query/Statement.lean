import CanaryMetrics.Instant.Writer
import CanaryMetrics.Query.Filter

namespace CanaryMetrics

/-!
# Select statements

* `Statement` — the parts of a select statement over one measurement and one time window.
* `Statement.text` — the statement as InfluxQL: the clauses in a fixed order, with single spaces
  between them.
-/

/-- A select statement. -/
structure Statement where
  /-- The expressions to select; every field when there are none. -/
  columns : List String
  /-- The measurement to select from. -/
  measurement : String
  /-- The start of the time window, inclusive. -/
  start : Instant
  /-- The end of the time window, exclusive. -/
  stop : Instant
  /-- What a point must satisfy besides. -/
  filters : List Filter
  /-- The expressions to group by. -/
  groupBy : List String
deriving DecidableEq, Repr

namespace Statement

/-- The expression for every field, but no tag, of a measurement. -/
def everyField : String := "*::field"

/-- The clause that names the columns. -/
def selectClause (columns : List String) : String :=
  "SELECT " ++ if columns = [] then everyField else ", ".intercalate columns

/-- The clause that names the measurement. -/
def fromClause (measurement : String) : String :=
  "FROM " ++ measurement

/-- The conditions: the two ends of the window, then the filters. -/
def conditions (start stop : Instant) (filters : List Filter) : List String :=
  ["time >= '" ++ start.text ++ "'", "time < '" ++ stop.text ++ "'"] ++ filters.map Filter.condition

/-- The clause that joins the conditions. -/
def whereClause (start stop : Instant) (filters : List Filter) : String :=
  "WHERE " ++ " AND ".intercalate (conditions start stop filters)

/-- The clause that names what to group by, if there is anything. -/
def groupByClause? (groupBy : List String) : Option String :=
  if groupBy = [] then none else some ("GROUP BY " ++ ", ".intercalate groupBy)

/-- The clauses of a statement, in the order in which they are written. -/
def clauses (s : Statement) : List String :=
  [selectClause s.columns, fromClause s.measurement, whereClause s.start s.stop s.filters]
    ++ (groupByClause? s.groupBy).toList

/-- A statement as InfluxQL. -/
def text (s : Statement) : String :=
  " ".intercalate s.clauses

end Statement

end CanaryMetrics
