import CanaryMetrics.Catalog.Loading
import CanaryMetrics.Json.Record

namespace CanaryMetrics.Catalog

/-!
# Consulting a catalog

Whoever consults a catalog has a scope in hand, changes it, and asks for metrics and their queries.

* `Inquiry` — what can be asked for.
* `Catalog.answer` — the answer to an inquiry and the scope afterwards, or why there is none.
* `Catalog.consult` — the answers to a list of inquiries; one that fails leaves the scope as it was.
-/

/-- What can be asked of a catalog. -/
inductive Inquiry
  /-- Replace the scope by what a JSON text describes. -/
  | scopeOfJson (text : String)
  /-- Give the scope the catalog's expression, or none if it has none. -/
  | defaultExpression
  /-- The metric of a name. -/
  | metric (name : String)
  /-- The query of a name's metric for the scope. -/
  | query (name : String)
  /-- The query of every entry for the scope. -/
  | queries
deriving DecidableEq, Repr

/-- The answer to an inquiry. -/
inductive Answer
  /-- The scope, which has changed. -/
  | scope (s : Scope)
  /-- A name has no metric. -/
  | noSuchMetric
  /-- A name and its metric. -/
  | metric (name : String) (m : Metric)
  /-- The query of a metric, or why there is none. -/
  | query (q : Except BuildError String)
  /-- The queries of all entries. -/
  | queries (qs : List (String × Except BuildError String))

/-- The answer to an inquiry, and the scope after it. -/
def answer (c : Catalog) (scope : Scope) : Inquiry → Except ReadError (Scope × Answer)
  | .scopeOfJson text => do
    let scope ← Scope.ofJson text
    pure (scope, .scope scope)
  | .defaultExpression =>
    let scope := { scope with expression := c.defaultExpression }
    .ok (scope, .scope scope)
  | .metric name =>
    .ok (scope, ((c.metric? name).map (Answer.metric name)).getD .noSuchMetric)
  | .query name =>
    .ok (scope, ((c.metric? name).map fun m => Answer.query (m.query (some scope))).getD .noSuchMetric)
  | .queries => .ok (scope, .queries (c.queries scope))

/-- The answers to a list of inquiries. -/
def consult (c : Catalog) (scope : Scope) : List Inquiry → List (Except ReadError Answer)
  | [] => []
  | inquiry :: rest =>
    match c.answer scope inquiry with
    | .ok (scope, answer) => .ok answer :: c.consult scope rest
    | .error e => .error e :: c.consult scope rest

end CanaryMetrics.Catalog
