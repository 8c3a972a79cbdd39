import CanaryMetrics.Datum.Basic
import CanaryMetrics.StringMap

namespace CanaryMetrics.Datum

/-!
# Reading a datum as a value of a type

* `readString`, `readStrings`, `readStringMap`, `readWord`, `readInstant` — readers of one type each.
* `readKey` — reads the key of a member.
* `readOptional` — the same, or nothing where there is no value.
* `mismatch` — the error where a datum is of another type than wanted.
-/

/-- The error that a datum is of another type than wanted; what cannot be read is an error of the
    document. -/
def mismatch (wanted : Wanted) : Datum → ReadError
  | null => .shape (.wrongType .null wanted)
  | bool b => .shape (.wrongType (.bool b) wanted)
  | integer n => .shape (.wrongType (.integer n) wanted)
  | float shown => .shape (.wrongType (.float shown) wanted)
  | unreadable => .malformed
  | string s => .shape (.wrongType (.string s) wanted)
  | sequence _ => .shape (.wrongType .sequence wanted)
  | map _ => .shape (.wrongType .map wanted)

/-- Reads a string. -/
def readString : Datum → Except ReadError String
  | string s => .ok s
  | d => .error (d.mismatch .string)

/-- Reads a sequence of strings. -/
def readStrings : Datum → Except ReadError (List String)
  | sequence items => items.mapM readString
  | d => .error (d.mismatch .sequence)

/-- Reads a key. -/
def readKey : Option String → Except ReadError String
  | some key => .ok key
  | none => .error .malformed

/-- Reads one member of a map of strings. -/
def readPair (member : Option String × Datum) : Except ReadError (String × String) := do
  pure (← readKey member.1, ← member.2.readString)

/-- Reads a map of strings; the last of several members with one key counts. -/
def readStringMap : Datum → Except ReadError StringMap
  | map members => StringMap.ofList <$> members.mapM readPair
  | d => .error (d.mismatch .map)

/-- Reads an integer between 0 and `2 ^ 64 - 1`. -/
def readWord : Datum → Except ReadError UInt64
  | integer n =>
    if 0 ≤ n ∧ n < UInt64.size then .ok (UInt64.ofNat n.toNat)
    else .error (.shape (.wrongInteger n .word))
  | d => .error (d.mismatch .word)

/-- Reads an instant from its text. -/
def readInstant : Datum → Except ReadError Instant
  | string s =>
    match Instant.ofText s with
    | .ok t => .ok t
    | .error e => .error (.shape (.notAnInstant e))
  | d => .error (d.mismatch .instant)

/-- Reads what `read` reads, or nothing where there is no value. -/
def readOptional (read : Datum → Except ReadError α) : Datum → Except ReadError (Option α)
  | null => .ok none
  | d => some <$> read d

end CanaryMetrics.Datum
