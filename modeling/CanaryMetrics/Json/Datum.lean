import CanaryMetrics.Datum.Basic
import CanaryMetrics.Json.Value

namespace CanaryMetrics.Json

open Decimal

/-!
# JSON values as data

* `Value.datum` — a JSON value as a datum.
-/

/-- Ties go to the even digit.  Numbers from `10 ^ -5` on and below `10 ^ 16` are shown with a point,
    others with an exponent. -/
def numberStyle : Style :=
  ⟨.toEven, fun lead => -5 ≤ lead && lead ≤ 15⟩

/-- A number as a datum. -/
def Numeral.datum (n : Numeral) : Datum :=
  match n.value with
  | .integer i => .integer i
  | .double negative size => .float (numberStyle.text negative size)
  | .tooLarge => .unreadable

namespace Value

mutual

/-- A value as a datum. -/
def datum : Value → Datum
  | null => .null
  | bool b => .bool b
  | number n => n.datum
  | string (some s) => .string s
  | string none => .unreadable
  | array items => .sequence (itemData items)
  | object members => .map (memberData members)

/-- The items of an array as data. -/
def itemData : List Value → List Datum
  | [] => []
  | v :: vs => v.datum :: itemData vs

/-- The members of an object as data. -/
def memberData : List (Option String × Value) → List (Option String × Datum)
  | [] => []
  | (key, v) :: ms => (key, v.datum) :: memberData ms

end

/-- Items become data one by one. -/
theorem itemData_eq_map (items : List Value) : itemData items = items.map datum := by
  induction items with
  | nil => simp [itemData]
  | cons v vs ih => simp [itemData, ih]

/-- Members become data one by one. -/
theorem memberData_eq_map (members : List (Option String × Value)) :
    memberData members = members.map fun m => (m.1, m.2.datum) := by
  induction members with
  | nil => simp [memberData]
  | cons m ms ih => simp [memberData, ih]

end Value

end CanaryMetrics.Json
