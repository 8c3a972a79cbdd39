import CanaryMetrics.Datum.Field
import CanaryMetrics.Metric.Basic

namespace CanaryMetrics.Metric

open Datum

/-!
# Reading a metric

* `Metric.ofMembers` — the metric that the members of a map describe.
* `Metric.ofDatum` — the metric that a datum describes: a map, or a sequence of its fields.

The measurement is mandatory.  The other parts may be missing or have no value.
-/

/-- The fields of a metric's description. -/
inductive Field
  /-- The measurement. -/
  | measurement
  /-- The field expressions. -/
  | fields
  /-- The tags. -/
  | tags
  /-- The expressions to group by. -/
  | groupBy
deriving DecidableEq, Repr

namespace Field

/-- The name of a field. -/
def name : Field → String
  | measurement => "metricName"
  | fields => "fields"
  | tags => "tags"
  | groupBy => "groupByFields"

/-- The field that a key names; two fields have a second spelling. -/
def ofKey? (key : String) : Option Field :=
  if key = "metricName" ∨ key = "metric_name" then some measurement
  else if key = "fields" then some fields
  else if key = "tags" then some tags
  else if key = "groupByFields" ∨ key = "group_by_fields" then some groupBy
  else none

/-- The fields in the order in which they stand in a sequence. -/
def all : List Field :=
  [measurement, fields, tags, groupBy]

/-- The name of a field is a key for it. -/
@[simp]
theorem ofKey?_name (f : Field) : ofKey? f.name = some f := by
  cases f <;> decide

end Field

/-- What has been read of a metric: each field once at most. -/
structure Draft where
  /-- The measurement. -/
  measurement : Option String := none
  /-- The field expressions. -/
  fields : Option (Option (List String)) := none
  /-- The tags. -/
  tags : Option (Option StringMap) := none
  /-- The expressions to group by. -/
  groupBy : Option (Option (List String)) := none
deriving DecidableEq, Repr

namespace Draft

/-- Reads one more field. -/
def read (draft : Draft) (field : Field) (d : Datum) : Except ReadError Draft :=
  match field with
  | .measurement => do
    pure { draft with measurement := ← readOnce field.name draft.measurement d.readString }
  | .fields => do
    pure { draft with fields := ← readOnce field.name draft.fields (d.readOptional readStrings) }
  | .tags => do
    pure { draft with tags := ← readOnce field.name draft.tags (d.readOptional readStringMap) }
  | .groupBy => do
    pure { draft with groupBy := ← readOnce field.name draft.groupBy (d.readOptional readStrings) }

/-- The metric that has been read; its measurement must not be missing. -/
def finish (draft : Draft) : Except ReadError Metric :=
  match draft.measurement with
  | none => .error (.shape (.missingField Field.measurement.name))
  | some measurement =>
    .ok
      { measurement
        fields := draft.fields.join
        tags := draft.tags.join
        groupBy := draft.groupBy.join }

end Draft

/-- The metric that the members of a map describe. -/
def ofMembers (members : List (Option String × Datum)) : Except ReadError Metric := do
  (← readMembers Field.ofKey? Draft.read {} members).finish

/-- The metric that a sequence of its fields describes; fields may be missing at the end, but not all of
    them. -/
def ofItems (items : List Datum) : Except ReadError Metric :=
  if items.isEmpty then .error (.shape (.emptySequence .metric Field.all.length))
  else do (← readItems Field.all Draft.read {} items).finish

/-- The metric that a datum describes. -/
def ofDatum : Datum → Except ReadError Metric
  | .map members => ofMembers members
  | .sequence items => ofItems items
  | d => .error (d.mismatch .metric)

end CanaryMetrics.Metric
