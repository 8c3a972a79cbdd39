import CanaryMetrics.Instant.Basic
import CanaryMetrics.StringMap

namespace CanaryMetrics

/-!
# Scopes

* `Scope` — the time window and the deployment that a metric is fetched for.
* `Scope.window`, `Scope.withExpression`, `Scope.withLocation`, `Scope.withStep`, `Scope.withParam` —
  building a scope part by part.
-/

/-- The time window and the deployment to fetch a metric for.  A query depends on the window and the
    expression alone; the other parts travel along for whoever runs it. -/
structure Scope where
  /-- A filter `name:value` for the deployment. -/
  expression : Option String := none
  /-- Where the deployment runs. -/
  location : Option String := none
  /-- The start of the window, which belongs to it. -/
  start : Option Instant := none
  /-- The end of the window, which does not belong to it. -/
  stop : Option Instant := none
  /-- The seconds from one sample to the next. -/
  step : Option UInt64 := none
  /-- Further parameters. -/
  params : StringMap := ∅
deriving DecidableEq, Repr, Inhabited

namespace Scope

/-- The scope with a window and nothing else. -/
def window (start stop : Instant) : Scope :=
  { start, stop }

/-- Replaces the expression. -/
def withExpression (s : Scope) (expression : String) : Scope :=
  { s with expression }

/-- Replaces the location. -/
def withLocation (s : Scope) (location : String) : Scope :=
  { s with location }

/-- Replaces the step. -/
def withStep (s : Scope) (step : UInt64) : Scope :=
  { s with step }

/-- Sets one further parameter. -/
def withParam (s : Scope) (key value : String) : Scope :=
  { s with params := s.params.insert key value }

end Scope

end CanaryMetrics
