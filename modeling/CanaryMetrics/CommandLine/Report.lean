import CanaryMetrics.Catalog.Loading
import CanaryMetrics.CommandLine.Arguments

namespace CanaryMetrics.CommandLine

/-!
# Reports

* `Report` — what a job leaves behind: output, events, and perhaps a failure.
* `Job.report` — the report on a job, given what stands at the catalog's path.

Without a metric's name every metric is rendered, and those that cannot be are counted.
-/

/-- Why a job fails. -/
inductive JobError
  /-- The catalog cannot be loaded. -/
  | notLoaded (e : LoadError)
  /-- The catalog at a path has no metric of a name. -/
  | noSuchMetric (name path : String)
  /-- There is no query for the metric. -/
  | noQuery (e : BuildError)
  /-- For so many metrics there is no query. -/
  | someNotBuilt (count : Nat)
deriving DecidableEq, Repr

/-- The wording of a failure. -/
def JobError.message : JobError → String
  | notLoaded e => e.message
  | noSuchMetric name path => "metric " ++ name ++ " not found in " ++ path
  | noQuery e => e.display
  | someNotBuilt count => toString count ++ " metric queries could not be built"

/-- What a job leaves behind. -/
structure Report where
  /-- What is written to the output. -/
  output : String := ""
  /-- What is logged. -/
  log : List Event := []
  /-- Why the job fails, if it does. -/
  error : Option JobError := none
deriving DecidableEq, Repr, Inhabited

/-- The exit status of a report: 1 after a failure, 0 otherwise. -/
def Report.exitStatus (r : Report) : Nat :=
  if r.error.isSome then 1 else 0

namespace Job

/-- The scope of a job: its window, with the job's own expression or else the catalog's. -/
def scope (j : Job) (c : Catalog) : Scope :=
  { Scope.window j.start j.stop with expression := j.expression.or c.defaultExpression }

/-- The output line of a metric's query: the metric's name, a tab and the query. -/
def line (name query : String) : String :=
  name ++ "\t" ++ query ++ "\n"

/-- The output lines of the queries that could be built. -/
def lines (qs : List (String × Except BuildError String)) : List String :=
  qs.filterMap fun q => (q.2.map (line q.1)).toOption

/-- The number of queries that could not be built. -/
def failures (qs : List (String × Except BuildError String)) : Nat :=
  qs.countP fun q => q.2.toOption.isNone

/-- Renders every metric. -/
def renderAll (j : Job) (c : Catalog) : Report :=
  let qs := c.queries (j.scope c)
  { output := String.join (lines qs)
    error := if failures qs = 0 then none else some (.someNotBuilt (failures qs)) }

/-- Renders the metric of a name. -/
def renderOne (j : Job) (c : Catalog) (name : String) : Report :=
  match c.metric? name with
  | none => { error := some (.noSuchMetric name j.path) }
  | some m =>
    match m.query (some (j.scope c)) with
    | .ok query => { output := query ++ "\n" }
    | .error e => { error := some (.noQuery e) }

/-- Renders what the job asks for. -/
def render (j : Job) (c : Catalog) : Report :=
  match j.metric with
  | none => j.renderAll c
  | some name => j.renderOne c name

/-- The report on a job, given what stands at the catalog's path. -/
def report (j : Job) (node : Option FileNode) : Report :=
  match Catalog.load j.path node with
  | .error e => { error := some (.notLoaded e) }
  | .ok (c, event) => { j.render c with log := [event] }

end Job

/-- A query is a line of output or a failure, never both. -/
theorem Job.length_lines_add_failures (qs : List (String × Except BuildError String)) :
    (lines qs).length + failures qs = qs.length := by
  induction qs with
  | nil => rfl
  | cons q qs ih =>
    obtain ⟨name, _ | _⟩ := q <;> simp_all [lines, failures, Except.map, Except.toOption] <;> omega

end CanaryMetrics.CommandLine
