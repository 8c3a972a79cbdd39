import CanaryMetrics.Datum.Reader

namespace CanaryMetrics.Datum

/-!
# Reading the members of a record

* `readOnce` — reads a member that may come once only.
* `readMembers` — reads a record from a map: members are taken in document order, the values of unknown
  ones are passed over.
* `readItems` — reads a record from a sequence: the members stand in a fixed order.
-/

/-- Reads a member into its slot, unless the slot is taken already; then the member is a duplicate,
    whatever it holds. -/
def readOnce (name : String) (slot : Option α) (value : Except ReadError α) :
    Except ReadError (Option α) :=
  match slot with
  | some _ => .error (.shape (.duplicateField name))
  | none => some <$> value

/-- Reads the members of a map one after the other; `field?` names the field of a key, if it has one. -/
def readMembers (field? : String → Option φ) (read : δ → φ → Datum → Except ReadError δ) (draft : δ)
    (members : List (Option String × Datum)) : Except ReadError δ :=
  members.foldlM
    (fun draft member => do
      match field? (← readKey member.1) with
      | none => pure draft
      | some field => read draft field member.2)
    draft

/-- Reads the items of a sequence as the fields of a record in their order; more items than fields are
    an error of the document. -/
def readItems (fields : List φ) (read : δ → φ → Datum → Except ReadError δ) (draft : δ)
    (items : List Datum) : Except ReadError δ := do
  let draft ← (fields.zip items).foldlM (fun draft p => read draft p.1 p.2) draft
  if fields.length < items.length then .error .malformed else pure draft

end CanaryMetrics.Datum
