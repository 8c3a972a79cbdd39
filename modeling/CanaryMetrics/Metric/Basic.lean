import CanaryMetrics.StringMap

namespace CanaryMetrics

/-!
# Metrics

* `Metric` — which fields of which measurement a canary compares, for which tags, grouped by what.
* `Metric.named`, `Metric.withFields`, `Metric.withTags`, `Metric.withGroupBy` — building a metric
  part by part; each replaces one part and keeps the others.
-/

/-- What to select for one canary metric. -/
structure Metric where
  /-- The measurement to select from. -/
  measurement : String := ""
  /-- The field expressions to select; every field when absent or empty. -/
  fields : Option (List String) := none
  /-- Tags that a point must have, with their values. -/
  tags : Option StringMap := none
  /-- The expressions to group by, in this order. -/
  groupBy : Option (List String) := none
deriving DecidableEq, Repr, Inhabited

namespace Metric

/-- The metric that selects every field of a measurement. -/
def named (measurement : String) : Metric :=
  { measurement }

/-- Replaces the field expressions. -/
def withFields (m : Metric) (fields : List String) : Metric :=
  { m with fields := some fields }

/-- Replaces the tags; of two pairs with the same key the later one counts. -/
def withTags (m : Metric) (tags : List (String × String)) : Metric :=
  { m with tags := some (StringMap.ofList tags) }

/-- Replaces the expressions to group by. -/
def withGroupBy (m : Metric) (groupBy : List String) : Metric :=
  { m with groupBy := some groupBy }

end Metric

end CanaryMetrics
