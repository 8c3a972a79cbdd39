import CanaryMetrics.Event
import CanaryMetrics.Json.Record

namespace CanaryMetrics

/-!
# Sessions

A session holds one metric and one scope and changes them step by step.

* `Operation` — what can be asked for in one step.
* `Session.step` — the answer to an operation and the session afterwards, or why it failed.
* `Session.run` — the answers to a list of operations; a step that fails leaves the session as it was.
-/

/-- A metric and a scope under construction. -/
structure Session where
  /-- The metric. -/
  metric : Metric := {}
  /-- The scope. -/
  scope : Scope := {}
deriving DecidableEq, Repr, Inhabited

/-- The parts of a metric that can be cleared. -/
inductive MetricPart
  /-- The field expressions. -/
  | fields
  /-- The tags. -/
  | tags
  /-- The expressions to group by. -/
  | groupBy
deriving DecidableEq, Repr

/-- The parts of a scope that can be cleared. -/
inductive ScopePart
  /-- The expression. -/
  | expression
  /-- The location. -/
  | location
  /-- The start of the window. -/
  | start
  /-- The end of the window. -/
  | stop
  /-- The step. -/
  | step
  /-- The further parameters. -/
  | params
deriving DecidableEq, Repr

/-- Takes a part away from a metric. -/
def Metric.clear (m : Metric) : MetricPart → Metric
  | .fields => { m with fields := none }
  | .tags => { m with tags := none }
  | .groupBy => { m with groupBy := none }

/-- Takes a part away from a scope. -/
def Scope.clear (s : Scope) : ScopePart → Scope
  | .expression => { s with expression := none }
  | .location => { s with location := none }
  | .start => { s with start := none }
  | .stop => { s with stop := none }
  | .step => { s with step := none }
  | .params => { s with params := ∅ }

/-- A change of the metric. -/
inductive MetricEdit
  /-- Starts afresh with a measurement. -/
  | new (measurement : String)
  /-- Replaces the field expressions. -/
  | fields (items : List String)
  /-- Replaces the tags. -/
  | tags (pairs : List (String × String))
  /-- Replaces the expressions to group by. -/
  | groupBy (items : List String)
  /-- Takes a part away. -/
  | clear (part : MetricPart)
  /-- Starts afresh with what a JSON text describes. -/
  | ofJson (text : String)
deriving DecidableEq, Repr

/-- A change of the scope.  Instants are given by seconds and nanoseconds. -/
inductive ScopeEdit
  /-- Starts afresh with nothing. -/
  | default
  /-- Starts afresh with a window. -/
  | window (start stop : Int × Nat)
  /-- Replaces the expression. -/
  | expression (text : String)
  /-- Replaces the location. -/
  | location (text : String)
  /-- Replaces the step. -/
  | step (seconds : UInt64)
  /-- Replaces the start of the window. -/
  | start (moment : Int × Nat)
  /-- Replaces the end of the window. -/
  | stop (moment : Int × Nat)
  /-- Sets a further parameter. -/
  | param (key value : String)
  /-- Takes a part away. -/
  | clear (part : ScopePart)
  /-- Starts afresh with what a JSON text describes. -/
  | ofJson (text : String)
deriving DecidableEq, Repr

/-- What can be asked of a session in one step. -/
inductive Operation
  /-- Change the metric. -/
  | editMetric (edit : MetricEdit)
  /-- Change the scope. -/
  | editScope (edit : ScopeEdit)
  /-- Build the query for the metric and the scope. -/
  | build
  /-- Build the query for the metric and no scope. -/
  | buildWithoutScope
  /-- Write the metric and the scope as JSON and read them again. -/
  | roundTrip
deriving DecidableEq, Repr

/-- Why a step fails. -/
inductive Failure
  /-- There is no instant with these seconds and nanoseconds. -/
  | noSuchInstant
  /-- A JSON text cannot be read. -/
  | unreadable (e : ReadError)
  /-- There is no query. -/
  | noQuery (e : BuildError)
deriving DecidableEq, Repr

/-- The answer to a step that succeeds. -/
inductive Answer
  /-- The metric after the step. -/
  | metric (m : Metric)
  /-- The scope after the step. -/
  | scope (s : Scope)
  /-- The query that was built, and what was logged. -/
  | query (text : String) (log : List Event)
  /-- Whether the metric and the scope are the same once written and read. -/
  | same (metric scope : Bool)
deriving DecidableEq, Repr

/-- The instant of seconds and nanoseconds. -/
def instantOfParts (parts : Int × Nat) : Except Failure Instant :=
  match Instant.ofParts? parts.1 parts.2 with
  | some t => .ok t
  | none => .error .noSuchInstant

/-- The metric after a change. -/
def Metric.edit (m : Metric) : MetricEdit → Except Failure Metric
  | .new measurement => .ok (.named measurement)
  | .fields items => .ok (m.withFields items)
  | .tags pairs => .ok (m.withTags pairs)
  | .groupBy items => .ok (m.withGroupBy items)
  | .clear part => .ok (m.clear part)
  | .ofJson text => (Metric.ofJson text).mapError .unreadable

/-- The scope after a change. -/
def Scope.edit (s : Scope) : ScopeEdit → Except Failure Scope
  | .default => .ok {}
  | .window start stop => do
    pure (.window (← instantOfParts start) (← instantOfParts stop))
  | .expression text => .ok (s.withExpression text)
  | .location text => .ok (s.withLocation text)
  | .step seconds => .ok (s.withStep seconds)
  | .start parts => do
    let start ← instantOfParts parts
    pure { s with start }
  | .stop parts => do
    let stop ← instantOfParts parts
    pure { s with stop }
  | .param key value => .ok (s.withParam key value)
  | .clear part => .ok (s.clear part)
  | .ofJson text => (Scope.ofJson text).mapError .unreadable

/-- The query for a metric and a scope that are given as JSON texts; the metric is read first. -/
def queryOfJson (metric : String) (scope : Option String) : Except Failure String := do
  let m ← (Metric.ofJson metric).mapError .unreadable
  let s ← scope.mapM fun text => (Scope.ofJson text).mapError .unreadable
  (m.query s).mapError .noQuery

/-- The query for a metric and a scope, and what is logged about it. -/
def Metric.queryLogged (m : Metric) (scope : Scope) : Except BuildError (String × List Event) := do
  let query ← m.query (some scope)
  pure (query, [.built query m scope])

namespace Session

/-- One step: the session after it and the answer, or why it failed. -/
def step (s : Session) : Operation → Except Failure (Session × Answer)
  | .editMetric edit => do
    let metric ← s.metric.edit edit
    pure ({ s with metric }, .metric metric)
  | .editScope edit => do
    let scope ← s.scope.edit edit
    pure ({ s with scope }, .scope scope)
  | .build =>
    match s.metric.queryLogged s.scope with
    | .ok (query, log) => .ok (s, .query query log)
    | .error e => .error (.noQuery e)
  | .buildWithoutScope =>
    match s.metric.query none with
    | .ok query => .ok (s, .query query [])
    | .error e => .error (.noQuery e)
  | .roundTrip =>
    .ok (s, .same ((Metric.ofJson s.metric.json).toOption = some s.metric)
      ((Scope.ofJson s.scope.json).toOption = some s.scope))

/-- The session after a step; a step that fails changes nothing. -/
def after (s : Session) (op : Operation) : Session :=
  match s.step op with
  | .ok (s', _) => s'
  | .error _ => s

/-- The answer to a step. -/
def answer (s : Session) (op : Operation) : Except Failure Answer :=
  (s.step op).map (·.2)

/-- The session after a list of steps. -/
def afterAll (s : Session) (ops : List Operation) : Session :=
  ops.foldl after s

/-- The answers to a list of steps. -/
def run (s : Session) : List Operation → List (Except Failure Answer)
  | [] => []
  | op :: ops => s.answer op :: (s.after op).run ops

end Session

end CanaryMetrics
