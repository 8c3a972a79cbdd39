import CanaryMetrics.Instant.Reader
import CanaryMetrics.Text.Quoted

namespace CanaryMetrics

open Text

/-!
# Data of any format

* `Datum` — a value of a document, whatever the document's format.
* `ShapeError` — how a datum can differ from what is wanted, with the wording in `ShapeError.message`.
-/

/-- A value of a document, whatever the format. -/
inductive Datum
  /-- No value. -/
  | null
  /-- A truth value. -/
  | bool (b : Bool)
  /-- An integer. -/
  | integer (n : Int)
  /-- A floating point number, as messages show it. -/
  | float (shown : String)
  /-- Something that can be passed over but not read: a number beyond the range of numbers, or a string
      that stands for no text. -/
  | unreadable
  /-- A string. -/
  | string (s : String)
  /-- A sequence. -/
  | sequence (items : List Datum)
  /-- A map: its members in document order, keys possibly repeated, with none for a key that stands for
      no text. -/
  | map (members : List (Option String × Datum))
deriving Repr, Inhabited

/-- What a reader wants to find. -/
inductive Wanted
  /-- A string. -/
  | string
  /-- A sequence. -/
  | sequence
  /-- A map. -/
  | map
  /-- An integer of 64 bits without a sign. -/
  | word
  /-- The text of an instant. -/
  | instant
  /-- A metric. -/
  | metric
  /-- A scope. -/
  | scope
  /-- The defaults of a catalog. -/
  | defaults
  /-- An entry of a catalog. -/
  | entry
deriving DecidableEq, Repr

/-- What is wanted, in words. -/
def Wanted.text : Wanted → String
  | string => "a string"
  | sequence => "a sequence"
  | map => "a map"
  | word => "u64"
  | instant => "an RFC 3339 formatted date and time string"
  | metric => "struct MetricQueryConfig"
  | scope => "struct CanaryScope"
  | defaults => "struct CatalogDefaults"
  | entry => "struct NamedMetricQuery"

/-- What is found where something else is wanted. -/
inductive Found
  /-- No value. -/
  | null
  /-- A truth value. -/
  | bool (b : Bool)
  /-- An integer. -/
  | integer (n : Int)
  /-- A floating point number, as messages show it. -/
  | float (shown : String)
  /-- A string. -/
  | string (s : String)
  /-- A sequence. -/
  | sequence
  /-- A map. -/
  | map
deriving DecidableEq, Repr

/-- What is found, in words. -/
def Found.text : Found → String
  | null => "null"
  | bool b => "boolean `" ++ (if b then "true" else "false") ++ "`"
  | integer n => "integer `" ++ toString n ++ "`"
  | float shown => "floating point `" ++ shown ++ "`"
  | string s => "string " ++ quoted s
  | sequence => "sequence"
  | map => "map"

/-- How a datum can differ from what is wanted. -/
inductive ShapeError
  /-- A mandatory member is missing. -/
  | missingField (name : String)
  /-- A member comes twice, perhaps under two spellings. -/
  | duplicateField (name : String)
  /-- Something of another type is there. -/
  | wrongType (found : Found) (wanted : Wanted)
  /-- An integer is there, but not one that is wanted. -/
  | wrongInteger (n : Int) (wanted : Wanted)
  /-- A sequence of members is too short: it is empty. -/
  | emptySequence (wanted : Wanted) (fields : Nat)
  /-- A string is there that spells no instant. -/
  | notAnInstant (e : Instant.ReadError)
deriving DecidableEq, Repr

/-- The wording of a difference. -/
def ShapeError.message : ShapeError → String
  | missingField name => "missing field `" ++ name ++ "`"
  | duplicateField name => "duplicate field `" ++ name ++ "`"
  | wrongType found wanted => "invalid type: " ++ found.text ++ ", expected " ++ wanted.text
  | wrongInteger n wanted => "invalid value: integer `" ++ toString n ++ "`, expected " ++ wanted.text
  | emptySequence wanted fields =>
    "invalid length 0, expected " ++ wanted.text ++ " with " ++ toString fields
      ++ if fields = 1 then " element" else " elements"
  | notAnInstant e => e.message

/-- Why a datum cannot be read. -/
inductive ReadError
  /-- The document is not well formed, which for some faults is seen only where they are read. -/
  | malformed
  /-- The document has not the shape that is wanted. -/
  | shape (e : ShapeError)
deriving DecidableEq, Repr

end CanaryMetrics
