import CanaryMetrics.Datum.Field
import CanaryMetrics.Scope.Basic

namespace CanaryMetrics.Scope

open Datum

/-!
# Reading a scope

* `Scope.ofMembers` — the scope that the members of a map describe.
* `Scope.ofDatum` — the scope that a datum describes: a map, or a sequence of its fields.

Any field may be missing.  All but the further parameters may also have no value.
-/

/-- The fields of a scope's description. -/
inductive Field
  /-- The expression. -/
  | expression
  /-- The location. -/
  | location
  /-- The start of the window. -/
  | start
  /-- The end of the window. -/
  | stop
  /-- The step. -/
  | step
  /-- The further parameters. -/
  | params
deriving DecidableEq, Repr

namespace Field

/-- The name of a field. -/
def name : Field → String
  | expression => "scope"
  | location => "location"
  | start => "start"
  | stop => "end"
  | step => "step"
  | params => "extendedScopeParams"

/-- The fields in the order in which they stand in a sequence. -/
def all : List Field :=
  [expression, location, start, stop, step, params]

/-- The field that a key names. -/
def ofKey? (key : String) : Option Field :=
  all.find? fun f => f.name = key

/-- The name of a field is a key for it. -/
@[simp]
theorem ofKey?_name (f : Field) : ofKey? f.name = some f := by
  cases f <;> decide

end Field

/-- What has been read of a scope: each field once at most. -/
structure Draft where
  /-- The expression. -/
  expression : Option (Option String) := none
  /-- The location. -/
  location : Option (Option String) := none
  /-- The start of the window. -/
  start : Option (Option Instant) := none
  /-- The end of the window. -/
  stop : Option (Option Instant) := none
  /-- The step. -/
  step : Option (Option UInt64) := none
  /-- The further parameters. -/
  params : Option StringMap := none
deriving DecidableEq, Repr

namespace Draft

/-- Reads one more field. -/
def read (draft : Draft) (field : Field) (d : Datum) : Except ReadError Draft :=
  match field with
  | .expression => do
    pure { draft with
      expression := ← readOnce field.name draft.expression (d.readOptional readString) }
  | .location => do
    pure { draft with location := ← readOnce field.name draft.location (d.readOptional readString) }
  | .start => do
    pure { draft with start := ← readOnce field.name draft.start (d.readOptional readInstant) }
  | .stop => do
    pure { draft with stop := ← readOnce field.name draft.stop (d.readOptional readInstant) }
  | .step => do
    pure { draft with step := ← readOnce field.name draft.step (d.readOptional readWord) }
  | .params => do
    pure { draft with params := ← readOnce field.name draft.params d.readStringMap }

/-- The scope that has been read. -/
def finish (draft : Draft) : Scope :=
  { expression := draft.expression.join
    location := draft.location.join
    start := draft.start.join
    stop := draft.stop.join
    step := draft.step.join
    params := draft.params.getD ∅ }

end Draft

/-- The scope that the members of a map describe. -/
def ofMembers (members : List (Option String × Datum)) : Except ReadError Scope := do
  pure (← readMembers Field.ofKey? Draft.read {} members).finish

/-- The scope that a sequence of its fields describes; fields may be missing at the end. -/
def ofItems (items : List Datum) : Except ReadError Scope := do
  pure (← readItems Field.all Draft.read {} items).finish

/-- The scope that a datum describes. -/
def ofDatum : Datum → Except ReadError Scope
  | .map members => ofMembers members
  | .sequence items => ofItems items
  | d => .error (d.mismatch .scope)

end CanaryMetrics.Scope
