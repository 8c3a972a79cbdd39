import CanaryMetrics.Query.Build
import CanaryMetrics.Text.Harmless
import CanaryMetrics.Text.Quoted

namespace CanaryMetrics

open Text

/-!
# Events worth logging

* `Event` — what happens while catalogs are loaded and queries are built.
* `Event.text` — the log line of an event: level, origin and message.  Whatever the message holds, it
  does nothing to a terminal.

A query that is built is logged together with all parts of the metric and the scope that it was built
from.
-/

/-! ### Values in log lines -/

namespace Shown

/-- An optional value. -/
def option (shown : α → String) : Option α → String
  | none => "None"
  | some a => "Some(" ++ shown a ++ ")"

/-- A list of strings. -/
def strings (items : List String) : String :=
  "[" ++ ", ".intercalate (items.map quoted) ++ "]"

/-- Text between braces. -/
def braces (s : String) : String :=
  "\x7b" ++ s ++ "\x7d"

/-- A map of strings, in key order. -/
def stringMap (m : StringMap) : String :=
  braces (", ".intercalate (m.entries.map fun e => quoted e.1 ++ ": " ++ quoted e.2))

/-- A record: its name, and its fields with their names. -/
def record (name : String) (fields : List (String × String)) : String :=
  name ++ " " ++ braces (" " ++ ", ".intercalate (fields.map fun f => f.1 ++ ": " ++ f.2) ++ " ")

end Shown

/-- A metric in a log line. -/
def Metric.shown (m : Metric) : String :=
  Shown.record "MetricQueryConfig"
    [("metric_name", quoted m.measurement),
     ("fields", Shown.option Shown.strings m.fields),
     ("tags", Shown.option Shown.stringMap m.tags),
     ("group_by_fields", Shown.option Shown.strings m.groupBy)]

/-- A scope in a log line. -/
def Scope.shown (s : Scope) : String :=
  Shown.record "CanaryScope"
    [("scope", Shown.option quoted s.expression),
     ("location", Shown.option quoted s.location),
     ("start", Shown.option Instant.text s.start),
     ("end", Shown.option Instant.text s.stop),
     ("step", Shown.option (fun n => toString n.toNat) s.step),
     ("extended_scope_params", Shown.stringMap s.params)]

/-! ### Events -/

/-- Something worth logging. -/
inductive Event
  /-- A query has been built for a metric and a scope. -/
  | built (query : String) (metric : Metric) (scope : Scope)
  /-- A catalog with so many metrics has been loaded from a file. -/
  | loaded (metrics : Nat) (path : String)
  /-- There is no catalog file, so the catalog is empty. -/
  | absent (path : String)
deriving DecidableEq, Repr

namespace Event

/-- The level of an event and the part of the program that it comes from. -/
def origin : Event → String
  | built .. => "DEBUG influx_canary_query::query_builder"
  | loaded .. | absent .. => "INFO influx_canary_query::config"

/-- What there is to say about an event. -/
def message : Event → String
  | built query metric scope =>
    "built query: " ++ query ++ " config: " ++ metric.shown ++ " scope: " ++ scope.shown
  | loaded metrics path => "loaded " ++ toString metrics ++ " metric queries from " ++ path
  | absent path => "catalog file not found at " ++ path ++ ", using defaults"

/-- The log line of an event. -/
def text (e : Event) : String :=
  e.origin ++ ": " ++ harmless e.message

end Event

/-! ### Unit test: a metric with every part, and a path with a control character -/

example : Metric.shown ⟨"cpu", some ["a\"b"], some (.ofList [("k", "v")]), none⟩
    = "MetricQueryConfig \x7b metric_name: \"cpu\", fields: Some([\"a\\\"b\"]), "
      ++ "tags: Some(\x7b\"k\": \"v\"\x7d), group_by_fields: None \x7d" := by
  decide +kernel

example : Event.text (.absent "a\u001b\u009b\té")
    = "INFO influx_canary_query::config: catalog file not found at a\\x1b\\u\x7b9b\x7d\té, using defaults" := by
  decide +kernel

end CanaryMetrics
