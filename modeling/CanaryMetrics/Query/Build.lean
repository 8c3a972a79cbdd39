import CanaryMetrics.Metric.Basic
import CanaryMetrics.Query.Statement
import CanaryMetrics.Scope.Basic

namespace CanaryMetrics

/-!
# From a metric and a scope to a query

* `Metric.statement` — the statement that fetches a metric for a scope, or the first thing amiss.
* `Metric.query` — the same as text.
* `BuildError` — what can be amiss, in the order in which it is looked for.
-/

/-- Why there is no query for a metric and a scope.  The constructors stand in the order of the checks. -/
inductive BuildError
  /-- The metric names no measurement. -/
  | measurementMissing
  /-- There is no scope. -/
  | scopeMissing
  /-- The scope's window lacks its start or its end. -/
  | windowMissing
  /-- The scope's expression is not of the form `key:value`. -/
  | malformedExpression (expression : String)
deriving DecidableEq, Repr

namespace BuildError

/-- The two classes of errors. -/
inductive Kind
  /-- Something mandatory is missing. -/
  | configuration
  /-- The scope's expression is malformed. -/
  | scopeFormat
deriving DecidableEq, Repr

/-- The class of an error. -/
def kind : BuildError → Kind
  | malformedExpression _ => .scopeFormat
  | _ => .configuration

/-- What the message about a malformed expression says before the expression itself. -/
def malformedExpressionText : String :=
  "Scope expected in the format of 'name:value'. e.g. autoscaling_group:myapp-prod-v002, received: "

/-- The message of an error, without its class. -/
def message : BuildError → String
  | measurementMissing => "Measurement is required to query metrics"
  | scopeMissing => "CanaryScope is missing"
  | windowMissing => "Start and End times are required"
  | malformedExpression expression => malformedExpressionText ++ expression

/-- What stands before the message of an error of this class. -/
def Kind.heading : Kind → String
  | configuration => "Invalid configuration: "
  | scopeFormat => "Invalid scope format: "

/-- The class and the message of an error. -/
def display (e : BuildError) : String :=
  e.kind.heading ++ e.message

end BuildError

namespace Filter

/-- The filter of an expression, or the expression as an error. -/
def ofExpression (expression : String) : Except BuildError Filter :=
  match ofExpression? expression with
  | some f => .ok f
  | none => .error (.malformedExpression expression)

/-- The filters that a map of tags stands for, in key order. -/
def ofTags (tags : Option StringMap) : List Filter :=
  (tags.getD ∅).entries.map fun e => ⟨e.1, e.2⟩

end Filter

namespace Scope

/-- The filter that a scope stands for: none without an expression. -/
def filters (s : Scope) : Except BuildError (List Filter) :=
  match s.expression with
  | none => .ok []
  | some expression => do
    let f ← Filter.ofExpression expression
    pure [f]

end Scope

namespace Metric

/-- The statement that fetches a metric for a scope. -/
def statement (m : Metric) (scope : Option Scope) : Except BuildError Statement :=
  if m.measurement = "" then .error .measurementMissing
  else
    match scope with
    | none => .error .scopeMissing
    | some s =>
      match s.start, s.stop with
      | some start, some stop => do
        let scopeFilters ← s.filters
        pure
          { columns := m.fields.getD []
            measurement := m.measurement
            start, stop
            filters := scopeFilters ++ Filter.ofTags m.tags
            groupBy := m.groupBy.getD [] }
      | _, _ => .error .windowMissing

/-- The query that fetches a metric for a scope. -/
def query (m : Metric) (scope : Option Scope) : Except BuildError String :=
  Statement.text <$> m.statement scope

end Metric

/-! ### Unit test: a query with every clause -/

example :
    ((((Metric.named "cpu").withTags [("b", "2"), ("a", "1")]).withGroupBy ["time(1m)", "host"]).query
      (some ((Scope.window ⟨0, 0, by decide, by decide, by decide⟩
        ⟨59, 1000000000, by decide, by decide, by decide⟩).withExpression "k:v"))).toOption
    = some ("SELECT *::field FROM cpu WHERE time >= '1970-01-01T00:00:00Z' AND "
      ++ "time < '1970-01-01T00:00:60Z' AND k='v' AND a='1' AND b='2' GROUP BY time(1m), host") := by
  decide +kernel

end CanaryMetrics
