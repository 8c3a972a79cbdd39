namespace CanaryMetrics

/-!
# Filters

A filter is a key and the value it must have.  A scope expression spells one as `key:value`.

* `Filter.ofExpression?` — the filter of an expression: one colon, something on both of its sides.
* `Filter.expression`, `Filter.Spellable` — the way back, and the filters for which there is one.
* `Filter.condition` — the filter as a condition of a query; nothing in it is escaped.
-/

/-- A key and the value it must have. -/
structure Filter where
  /-- The key. -/
  key : String
  /-- The value that the key must have. -/
  value : String
deriving DecidableEq, Repr

namespace Filter

/-- The filter of an expression, if the expression is well formed. -/
def ofExpression? (expression : String) : Option Filter :=
  let key := expression.toList.takeWhile (· ≠ ':')
  match expression.toList.dropWhile (· ≠ ':') with
  | [] => none
  | _ :: value =>
    if key = [] ∨ value = [] ∨ ':' ∈ value then none
    else some ⟨String.ofList key, String.ofList value⟩

/-- The expression that spells a filter. -/
def expression (f : Filter) : String :=
  f.key ++ ":" ++ f.value

/-- A filter can be spelled when key and value hold something, but no colon. -/
def Spellable (f : Filter) : Prop :=
  f.key ≠ "" ∧ ':' ∉ f.key.toList ∧ f.value ≠ "" ∧ ':' ∉ f.value.toList

/-- The filter as a condition of a query. -/
def condition (f : Filter) : String :=
  f.key ++ "='" ++ f.value ++ "'"

/-! ### Unit test: one, no and two colons, and empty sides -/

example : ofExpression? "server:app-v002" = some ⟨"server", "app-v002"⟩ := by decide

example : ["server", "a:b:c", ":b", "a:", ":", ""].map ofExpression? = List.replicate 6 none := by
  decide

end Filter

end CanaryMetrics
