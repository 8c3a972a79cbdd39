import CanaryMetrics.Proofs.Json.Writers
import CanaryMetrics.Proofs.Toml.Values

namespace CanaryMetrics.Toml.Value

/-!
# TOML values as JSON

Strings, truth values, integers, and arrays and tables of such values exist in both formats.

* `json` — a TOML value as JSON.
* `Inline.proper_json`, `Inline.datum_json` — of such a value it has a text that spells it, and stands for
  the same datum.
-/

mutual

/-- A value as JSON.  (Floating point numbers and dates are not the same data there.) -/
def json : Value → Json.Value
  | bool b => .bool b
  | integer n => .number (.ofInt n)
  | real _ => .null
  | string s => .ofString s
  | dateTime t => .ofString t.text
  | array items => .array (itemJson items)
  | table entries => .object (entryJson entries)

/-- The items of an array as JSON. -/
def itemJson : List Value → List Json.Value
  | [] => []
  | v :: vs => v.json :: itemJson vs

/-- The entries of a table as JSON. -/
def entryJson : List (String × Value) → List (Option String × Json.Value)
  | [] => []
  | (key, v) :: es => (some key, v.json) :: entryJson es

end

theorem itemJson_eq_map (items : List Value) : itemJson items = items.map json := by
  induction items with
  | nil => rfl
  | cons v vs ih => rw [itemJson, ih, List.map_cons]

theorem entryJson_eq_map (entries : List (String × Value)) :
    entryJson entries = entries.map fun e => (some e.1, e.2.json) := by
  induction entries with
  | nil => rfl
  | cons e es ih => rw [entryJson, ih, List.map_cons]

variable {levels : Nat} {v : Value}

/-- All numerals are proper, so the JSON text of a value spells it. -/
theorem Inline.proper_json (h : Inline levels v) : v.json.Proper := by
  -- only integers become numerals, and strings are tokens whatever is in them
  induction h with
  | bool levels b =>
    intro n hn
    rw [json, Json.Value.tokens] at hn
    cases List.mem_singleton.1 hn
  | integer levels hn =>
    rename_i k
    intro n hmem
    rw [json, Json.Value.tokens] at hmem
    cases List.mem_singleton.1 hmem
    exact Json.Numeral.proper_ofInt k
  | string levels s => exact Json.Value.proper_ofString s
  | array h ih =>
    rw [json, itemJson_eq_map]
    exact Json.Value.proper_array (List.forall_mem_map.2 ih)
  | table hkeys h ih =>
    rw [json, entryJson_eq_map]
    exact Json.Value.proper_object (List.forall_mem_map.2 ih)

/-- **A value is the same datum in both formats.** -/
theorem Inline.datum_json (h : Inline levels v) : v.json.datum = v.datum := by
  induction h with
  | bool levels b => rw [json, Json.Value.datum, datum]
  | integer levels hn =>
    rename_i k
    -- the 64 bits of a signed integer are within what a JSON integer may be
    have hmax : k < UInt64.size := Int.lt_of_le_of_lt hn.2 (by decide)
    rw [json, Json.Value.datum, Json.Numeral.datum, Json.Numeral.value_ofInt hn.1 hmax, datum]
  | string levels s => rw [json, Json.Value.ofString, Json.Value.datum, datum]
  | array h ih =>
    rw [json, Json.Value.datum, Json.Value.itemData_eq_map, itemJson_eq_map, List.map_map, datum,
      itemData_eq_map]
    exact congrArg Datum.sequence (List.map_congr_left ih)
  | table hkeys h ih =>
    rw [json, Json.Value.datum, Json.Value.memberData_eq_map, entryJson_eq_map, List.map_map, datum,
      entryData_eq_map]
    exact congrArg Datum.map (List.map_congr_left fun e he => congrArg (some e.1, ·) (ih e he))

end CanaryMetrics.Toml.Value
