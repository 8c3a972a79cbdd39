import CanaryMetrics.Instant.Writer
import CanaryMetrics.Json.Datum
import CanaryMetrics.Metric.Reader
import CanaryMetrics.Scope.Reader

namespace CanaryMetrics

open Json (Value Numeral)

/-!
# Metrics and scopes as JSON

* `Metric.ofJson`, `Scope.ofJson` — reading the JSON text of a metric and of a scope.
* `Metric.json`, `Scope.json` — writing them: every field is there, `null` where there is no value.
-/

namespace Json.Value

/-- An optional value, `null` when it is absent. -/
def ofOption (write : α → Value) : Option α → Value
  | none => .null
  | some a => write a

/-- A string. -/
def ofString (s : String) : Value :=
  .string (some s)

/-- A list of strings as an array. -/
def ofStrings (items : List String) : Value :=
  .array (items.map ofString)

/-- Members as an object. -/
def ofMembers (members : List (String × Value)) : Value :=
  .object (members.map fun m => (some m.1, m.2))

/-- A map of strings as an object with ascending keys. -/
def ofStringMap (m : StringMap) : Value :=
  ofMembers (m.entries.map fun e => (e.1, ofString e.2))

/-- A natural number. -/
def ofNat (n : Nat) : Value :=
  .number (.ofNat n)

end Json.Value

/-- Reads the datum of a JSON text.  The whole text is looked at before any part of it is read, so a text
    that is malformed anywhere is malformed, even if a member in front of the fault could not be read
    either.  A reader that takes the text as it comes may find that member first. -/
def readJson (read : Datum → Except ReadError α) (text : String) : Except ReadError α :=
  match Value.ofText? text with
  | none => .error .malformed
  | some v => read v.datum

namespace Metric

/-- The metric that a JSON text describes. -/
def ofJson (text : String) : Except ReadError Metric :=
  readJson ofDatum text

/-- A metric as a JSON value. -/
def jsonValue (m : Metric) : Value :=
  .ofMembers
    [(Field.measurement.name, .ofString m.measurement),
     (Field.fields.name, .ofOption .ofStrings m.fields),
     (Field.tags.name, .ofOption .ofStringMap m.tags),
     (Field.groupBy.name, .ofOption .ofStrings m.groupBy)]

/-- A metric as JSON text. -/
def json (m : Metric) : String :=
  m.jsonValue.text

end Metric

namespace Scope

/-- The scope that a JSON text describes. -/
def ofJson (text : String) : Except ReadError Scope :=
  readJson ofDatum text

/-- A scope as a JSON value. -/
def jsonValue (s : Scope) : Value :=
  .ofMembers
    [(Field.expression.name, .ofOption .ofString s.expression),
     (Field.location.name, .ofOption .ofString s.location),
     (Field.start.name, .ofOption (fun t => .ofString t.text) s.start),
     (Field.stop.name, .ofOption (fun t => .ofString t.text) s.stop),
     (Field.step.name, .ofOption (fun n => .ofNat n.toNat) s.step),
     (Field.params.name, .ofStringMap s.params)]

/-- A scope as JSON text. -/
def json (s : Scope) : String :=
  s.jsonValue.text

end Scope

/-! ### Unit test: what is written is read back, and what cannot be read can be passed over -/

example :
    let m : Metric := { measurement := "a\"b", fields := some [], tags := some (.ofList [("k", "")]) }
    (Metric.ofJson m.json).toOption = some m := by decide +kernel

example :
    let s : Scope := { expression := some "k:v", start := Instant.ofParts? 59 1500000000, step := some 60 }
    (Scope.ofJson s.json).toOption = some s := by decide +kernel

example :
    (Scope.ofJson "\x7b\"x\":[1e400,\"\\ud800\",\x7b\"\\udc00\":0\x7d],\"step\":1\x7d").toOption
      = some { step := some 1 } := by
  decide +kernel

example :
    ["\x7b\"step\":1e400\x7d", "\x7b\"scope\":\"\\ud800\"\x7d", "\x7b\"\\udc00\":0\x7d",
      "\x7b\"extendedScopeParams\":\x7b\"\\ud800\":\"\"\x7d\x7d"].map (fun text => match Scope.ofJson text with
        | .error e => decide (e = .malformed)
        | .ok _ => false)
      = List.replicate 4 true := by
  decide +kernel

end CanaryMetrics
