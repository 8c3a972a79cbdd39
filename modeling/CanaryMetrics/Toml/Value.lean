import CanaryMetrics.Datum.Basic
import CanaryMetrics.Decimal.Shortest
import CanaryMetrics.Toml.DateTime

namespace CanaryMetrics.Toml

open Decimal

/-!
# TOML values

* `Value` — a TOML value; the entries of a table stand in the order in which they were made.
* `Value.datum` — a TOML value as a datum.  A date or time becomes a map with one member, whose key no
  author would choose and whose value is the text of the date or time.
-/

/-- A floating point number. -/
inductive Real
  /-- A finite number: its sign and its size. -/
  | finite (negative : Bool) (size : Double)
  /-- An infinite number. -/
  | infinite (negative : Bool)
  /-- Not a number. -/
  | nan
deriving DecidableEq, Repr

/-- Ties go to the greater number.  Every finite number is shown with a point and without an exponent. -/
def realStyle : Style :=
  ⟨.up, fun _ => true⟩

/-- A floating point number, as messages show it. -/
def Real.text : Real → String
  | finite negative size => realStyle.text negative size
  | infinite negative => if negative then "-inf" else "inf"
  | nan => "NaN"

/-- A TOML value. -/
inductive Value
  /-- A truth value. -/
  | bool (b : Bool)
  /-- An integer of 64 bits. -/
  | integer (n : Int)
  /-- A floating point number. -/
  | real (x : Real)
  /-- A string. -/
  | string (s : String)
  /-- A date or a time. -/
  | dateTime (t : DateTime)
  /-- An array. -/
  | array (items : List Value)
  /-- A table. -/
  | table (entries : List (String × Value))
deriving Repr, Inhabited

namespace Value

/-- The key of the map that a date or time becomes. -/
def dateTimeKey : String := "$__toml_private_datetime"

mutual

/-- A value as a datum. -/
def datum : Value → Datum
  | bool b => .bool b
  | integer n => .integer n
  | real x => .float x.text
  | string s => .string s
  | dateTime t => .map [(some dateTimeKey, .string t.text)]
  | array items => .sequence (itemData items)
  | table entries => .map (entryData entries)

/-- The items of an array as data. -/
def itemData : List Value → List Datum
  | [] => []
  | v :: vs => v.datum :: itemData vs

/-- The entries of a table as data. -/
def entryData : List (String × Value) → List (Option String × Datum)
  | [] => []
  | (key, v) :: es => (some key, v.datum) :: entryData es

end

/-- The items of an array are converted one by one. -/
theorem itemData_eq_map (items : List Value) : itemData items = items.map datum := by
  induction items with
  | nil => rfl
  | cons v vs ih => rw [itemData, ih, List.map_cons]

/-- The entries of a table are converted one by one. -/
theorem entryData_eq_map (entries : List (String × Value)) :
    entryData entries = entries.map fun e => (some e.1, e.2.datum) := by
  induction entries with
  | nil => rfl
  | cons e es ih => rw [entryData, ih, List.map_cons]

end Value

end CanaryMetrics.Toml
