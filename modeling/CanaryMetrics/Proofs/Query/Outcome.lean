import CanaryMetrics.Proofs.Query.Expression
import CanaryMetrics.Query.Build

namespace CanaryMetrics

/-!
# What building a query comes to

One lemma for each way in which building can end; the hypotheses are the checks that were passed and
the one that was not.  Whoever reasons about queries cites these and leaves `Metric.statement`
closed.

* `Metric.statement_of_filters` — nothing is amiss.
* `Metric.statement_eq_ok_iff` — there is a statement exactly when nothing is amiss.
* `Metric.Amiss`, `Metric.statement_eq_error_iff` — otherwise the first thing amiss is the error.
-/

/-! ### The filters of a scope -/

namespace Scope

variable {s : Scope} {expression : String}

/-- A scope without an expression asks for nothing besides. -/
theorem filters_of_none (h : s.expression = none) : s.filters = .ok [] := by
  rw [filters, h]

/-- The filter of a well-formed expression is asked for. -/
theorem filters_of_some {f : Filter} (h : s.expression = some expression)
    (hf : Filter.ofExpression? expression = some f) : s.filters = .ok [f] := by
  rw [filters, h]
  simp only [Filter.ofExpression, hf]
  rfl

/-- A malformed expression is an error that names it. -/
theorem filters_of_malformed (h : s.expression = some expression)
    (hf : Filter.ofExpression? expression = none) :
    s.filters = .error (.malformedExpression expression) := by
  rw [filters, h]
  simp only [Filter.ofExpression, hf]
  rfl

/-- The filters of a scope, if its expression is not malformed, are those of its expression. -/
theorem filters_eq_ok {fs : List Filter} (h : s.filters = .ok fs) :
    (s.expression.bind Filter.ofExpression?).toList = fs := by
  cases hexpression : s.expression with
  | none =>
    rw [filters_of_none hexpression] at h
    exact Except.ok.inj h
  | some expression =>
    rw [Option.bind_some]
    cases hf : Filter.ofExpression? expression with
    | none => rw [filters_of_malformed hexpression hf] at h; cases h
    | some f =>
      rw [filters_of_some hexpression hf] at h
      exact Except.ok.inj h

end Scope

/-! ### The statement of a metric -/

namespace Metric

variable {m : Metric} {s : Scope} {scope : Option Scope} {start stop : Instant}

/-- The statement of a metric for a window and filters that are asked for besides. -/
def statementFor (m : Metric) (start stop : Instant) (fs : List Filter) : Statement where
  columns := m.fields.getD []
  measurement := m.measurement
  start := start
  stop := stop
  filters := fs ++ Filter.ofTags m.tags
  groupBy := m.groupBy.getD []

/-- The measurement is looked for first. -/
theorem statement_of_measurementMissing (h : m.measurement = "") :
    m.statement scope = .error .measurementMissing := by
  unfold statement
  rw [if_pos h]

/-- Then the scope. -/
theorem statement_of_scopeMissing (hm : m.measurement ≠ "") :
    m.statement none = .error .scopeMissing := by
  unfold statement
  rw [if_neg hm]

/-- Then both ends of the window. -/
theorem statement_of_windowMissing (hm : m.measurement ≠ "") (h : s.start = none ∨ s.stop = none) :
    m.statement (some s) = .error .windowMissing := by
  rw [statement, if_neg hm]
  rcases h with h | h
  · simp only [h]
  · rw [h]
    cases s.start <;> rfl

/-- An error of the expression comes last. -/
theorem statement_of_error {e : BuildError} (hm : m.measurement ≠ "")
    (hstart : s.start = some start) (hstop : s.stop = some stop) (h : s.filters = .error e) :
    m.statement (some s) = .error e := by
  rw [statement, if_neg hm]
  simp only [hstart, hstop, h]
  rfl

/-- When nothing is amiss there is a statement. -/
theorem statement_of_filters {fs : List Filter} (hm : m.measurement ≠ "")
    (hstart : s.start = some start) (hstop : s.stop = some stop) (h : s.filters = .ok fs) :
    m.statement (some s) = .ok (m.statementFor start stop fs) := by
  rw [statement, if_neg hm]
  simp only [hstart, hstop, h]
  rfl

/-- There is a statement exactly when nothing is amiss. -/
theorem statement_eq_ok_iff {st : Statement} :
    m.statement scope = .ok st ↔ m.measurement ≠ "" ∧ ∃ s start stop fs,
      scope = some s ∧ s.start = some start ∧ s.stop = some stop ∧ s.filters = .ok fs
        ∧ st = m.statementFor start stop fs := by
  constructor
  · -- every check but the last has its own refusal
    intro h
    by_cases hm : m.measurement = ""
    · rw [statement_of_measurementMissing hm] at h; cases h
    refine ⟨hm, ?_⟩
    rcases scope with _ | s
    · rw [statement_of_scopeMissing hm] at h; cases h
    rcases hstart : s.start with _ | start
    · rw [statement_of_windowMissing hm (.inl hstart)] at h; cases h
    rcases hstop : s.stop with _ | stop
    · rw [statement_of_windowMissing hm (.inr hstop)] at h; cases h
    rcases hfs : s.filters with e | fs
    · rw [statement_of_error hm hstart hstop hfs] at h; cases h
    · rw [statement_of_filters hm hstart hstop hfs] at h
      cases h
      exact ⟨s, start, stop, fs, rfl, hstart, hstop, hfs, rfl⟩
  · rintro ⟨hm, s, start, stop, fs, rfl, hstart, hstop, hfs, rfl⟩
    exact statement_of_filters hm hstart hstop hfs

/-- What is amiss first with a measurement and a scope.  Nothing else of a metric is looked at. -/
inductive Amiss (measurement : String) : Option Scope → BuildError → Prop
  /-- The measurement is missing. -/
  | measurement {scope : Option Scope} (h : measurement = "") :
    Amiss measurement scope .measurementMissing
  /-- The scope is missing. -/
  | scope (hm : measurement ≠ "") : Amiss measurement none .scopeMissing
  /-- An end of the window is missing. -/
  | window {s : Scope} (hm : measurement ≠ "") (h : s.start = none ∨ s.stop = none) :
    Amiss measurement (some s) .windowMissing
  /-- The expression is malformed. -/
  | expression {s : Scope} {start stop : Instant} {e : BuildError} (hm : measurement ≠ "")
    (hstart : s.start = some start) (hstop : s.stop = some stop) (h : s.filters = .error e) :
    Amiss measurement (some s) e

/-- The error is what is amiss first. -/
theorem statement_eq_error_iff {e : BuildError} :
    m.statement scope = .error e ↔ Amiss m.measurement scope e := by
  constructor
  · intro h
    -- the checks of the builder in their order: measurement, scope, window, expression
    by_cases hm : m.measurement = ""
    · rw [statement_of_measurementMissing hm] at h
      cases h
      exact .measurement hm
    rcases scope with _ | s
    · rw [statement_of_scopeMissing hm] at h
      cases h
      exact .scope hm
    by_cases hwindow : s.start = none ∨ s.stop = none
    · rw [statement_of_windowMissing hm hwindow] at h
      cases h
      exact .window hm hwindow
    rw [not_or, ← ne_eq, ← ne_eq, Option.ne_none_iff_exists', Option.ne_none_iff_exists'] at hwindow
    obtain ⟨⟨start, hstart⟩, stop, hstop⟩ := hwindow
    rcases hfilters : s.filters with e' | fs
    · rw [statement_of_error hm hstart hstop hfilters] at h
      cases h
      exact .expression hm hstart hstop hfilters
    · rw [statement_of_filters hm hstart hstop hfilters] at h
      cases h
  · intro h
    cases h with
    | measurement h => exact statement_of_measurementMissing h
    | scope hm => exact statement_of_scopeMissing hm
    | window hm h => exact statement_of_windowMissing hm h
    | expression hm hstart hstop h => exact statement_of_error hm hstart hstop h

end Metric

end CanaryMetrics
