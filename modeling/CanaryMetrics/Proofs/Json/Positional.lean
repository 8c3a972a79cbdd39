import CanaryMetrics.Proofs.Json.Members
import CanaryMetrics.Proofs.Json.Values

namespace CanaryMetrics

open Datum
open Json (Value)

/-!
# Records without keys

A record may be written as an object, or as an array in which its fields stand in a fixed order.  The
two are read by different loops: one goes by the keys and the other by the places.

* `readItems_eq_readMembers` — items are read as members whose keys name the fields in their order.
* `readItems_of_lt` — items beyond the last field are an error of the document.
* `Positional` — arrays are read as the objects that they stand for.
* `positional_readJson` — so they are wherever both loops fill the same slots and end in the same way.
* `ofJson_positional` — metrics and scopes may be written without keys.
-/

/-! ### Items and members -/

namespace Datum

variable {φ δ : Type} {field? : String → Option φ} {name : φ → String} {fields : List φ}
  {read : δ → φ → Datum → Except ReadError δ} {draft : δ} {items : List Datum}

/-- Items are read as members whose keys name the fields in their order. -/
theorem readItems_eq_readMembers (hname : ∀ field, field? (name field) = some field)
    (h : items.length ≤ fields.length) :
    readItems fields read draft items
      = readMembers field? read draft
          (((fields.map name).zip items).map fun m => (some m.1, m.2)) := by
  unfold readItems readMembers
  rw [List.zip_map_left, List.map_map, List.foldlM_map]
  -- the key of each member leads back to its field
  simp only [if_neg (Nat.not_lt.2 h), bind_pure, Function.comp_apply, Prod.map, id, readKey, ok_bind,
    hname]

/-- Items beyond the last field are an error of the document, unless there is one before them. -/
theorem readItems_of_lt (h : fields.length < items.length) :
    readItems fields read draft items
      = readItems fields read draft (items.take fields.length) >>= fun _ => .error .malformed := by
  -- fields and items are paired off, which leaves out the items for which there is no field
  have hzip : fields.zip (items.take fields.length) = fields.zip items := by
    have hlength : fields.length = (items.take fields.length).length := by
      rw [List.length_take]
      omega
    have happend : (fields ++ []).zip (items.take fields.length ++ items.drop fields.length)
        = fields.zip (items.take fields.length) ++ [].zip (items.drop fields.length) :=
      List.zip_append hlength
    rw [List.append_nil, List.take_append_drop, List.zip_nil_left, List.append_nil] at happend
    exact happend.symm
  have hlength : ¬ fields.length < (items.take fields.length).length := by
    rw [List.length_take]
    omega
  unfold readItems
  simp only [if_pos h, if_neg hlength, hzip, bind_pure]

end Datum

/-! ### Arrays and objects -/

/-- A record whose fields have certain names, in this order, may be written as an array in which the
    fields stand by themselves, some of them at least. -/
structure Positional {α : Type} (ofJson : String → Except ReadError α) (names : List String)
    (least : Nat) : Prop where
  /-- An array is read as the object of its items under the first names: there is the same record, or
      the same error. -/
  array_eq_object : ∀ items text text', least ≤ items.length → items.length ≤ names.length →
    Value.ofText? text = some (.array items) →
    Value.ofText? text' = some (.ofMembers (names.zip items)) → ofJson text = ofJson text'
  /-- An array with more items than there are fields is not read. -/
  exists_error : ∀ items text, names.length < items.length →
    Value.ofText? text = some (.array items) → ∃ e, ofJson text = .error e
  /-- That there are more items is an error of the document, when they follow a record that is read. -/
  malformed : ∀ items more text text' record, items.length = names.length → more ≠ [] →
    Value.ofText? text = some (.array (items ++ more)) → Value.ofText? text' = some (.array items) →
    ofJson text' = .ok record → ofJson text = .error .malformed

namespace Json.Value

/-- The text of an array is read as its items are. -/
theorem readJson_of_array {α : Type} {text : String} {items : List Value}
    (h : ofText? text = some (.array items)) (read : Datum → Except ReadError α) :
    readJson read text = read (.sequence (items.map datum)) := by
  rw [readJson, h]
  simp only [datum, itemData_eq_map]

end Json.Value

section

variable {φ δ α : Type} {field? : String → Option φ} {name : φ → String} {fields : List φ}
  {read : δ → φ → Datum → Except ReadError δ} {draft : δ} {finish : δ → Except ReadError α}
  {ofDatum : Datum → Except ReadError α} {least : Nat}

/-- **Records may be written without keys** when the name of each field is a key for it, and items and
    members are read into the same draft, which is finished in the same way. -/
theorem positional_readJson (hname : ∀ field, field? (name field) = some field)
    (hmap : ∀ members, ofDatum (.map members) = readMembers field? read draft members >>= finish)
    (hsequence : ∀ items, least ≤ items.length →
      ofDatum (.sequence items) = readItems fields read draft items >>= finish)
    (hleast : least ≤ fields.length) :
    Positional (readJson ofDatum) (fields.map name) least where
  array_eq_object := by
    intro items text text' hmin hmax htext htext'
    rw [List.length_map] at hmax
    -- the pairs of names and items are the members of the object, once these are read as data
    have hmembers : ((fields.map name).zip (items.map Json.Value.datum)).map (fun m => (some m.1, m.2))
        = Json.Value.memberData (((fields.map name).zip items).map fun m => (some m.1, m.2)) := by
      rw [Json.Value.memberData_eq_map, List.zip_map_right, List.map_map, List.map_map]
      rfl
    rw [Json.Value.readJson_of_array htext, Json.Value.readJson_of_object htext', hmap,
      hsequence _ (by rwa [List.length_map]),
      readItems_eq_readMembers hname (by rwa [List.length_map]), hmembers]
  exists_error := by
    intro items text hmore htext
    rw [List.length_map] at hmore
    rw [Json.Value.readJson_of_array htext, hsequence _ (by rw [List.length_map]; omega),
      readItems_of_lt (by rwa [List.length_map])]
    -- either one of the first items is refused, or the array is for its length
    cases readItems fields read draft ((items.map Json.Value.datum).take fields.length) with
    | error e => exact ⟨e, rfl⟩
    | ok draft => exact ⟨.malformed, rfl⟩
  malformed := by
    intro items more text text' record hlength hmore htext htext' hread
    rw [List.length_map] at hlength
    have hlt : fields.length < ((items ++ more).map Json.Value.datum).length := by
      have := List.length_pos_iff.2 hmore
      rw [List.length_map, List.length_append]
      omega
    -- the items that are paired off are those of the shorter array, which are read
    have htake : ((items ++ more).map Json.Value.datum).take fields.length
        = items.map Json.Value.datum := by
      rw [List.map_append, List.take_left' (by rw [List.length_map, hlength])]
    rw [Json.Value.readJson_of_array htext', hsequence _ (by rw [List.length_map]; omega)] at hread
    obtain ⟨draft', hdraft, -⟩ := bind_eq_ok_iff.1 hread
    rw [Json.Value.readJson_of_array htext, hsequence _ (by omega), readItems_of_lt hlt, htake, hdraft]
    rfl

end

/-! ### Metrics and scopes -/

/-- **Metrics and scopes may be written without keys.**  An array of the first fields of a metric, its
    measurement at least, is read as the object with their names as keys, and so is an array of the first
    fields of a scope: there is the same metric or scope, or the same error.  Arrays with more items than
    there are fields are not read. -/
theorem ofJson_positional :
    Positional Metric.ofJson ["metricName", "fields", "tags", "groupByFields"] 1 ∧
      Positional Scope.ofJson
        ["scope", "location", "start", "end", "step", "extendedScopeParams"] 0 := by
  have hmetric : Positional Metric.ofJson (Metric.Field.all.map Metric.Field.name) 1 := by
    refine positional_readJson Metric.Field.ofKey?_name (fun _ => rfl) (fun items hitems => ?_) (by decide)
    -- an empty array lacks the measurement
    have hne : items.isEmpty = false := by
      rw [List.isEmpty_eq_false_iff, ← List.length_pos_iff]
      exact hitems
    rw [Metric.ofDatum, Metric.ofItems, hne]
    rfl
  have hscope : Positional Scope.ofJson (Scope.Field.all.map Scope.Field.name) 0 :=
    positional_readJson Scope.Field.ofKey?_name (fun _ => rfl) (fun _ _ => rfl) (by decide)
  exact ⟨hmetric, hscope⟩

/-- A start that spells no instant is the same error in either form, and a seventh item is one even
    after six that are read. -/
theorem ofJson_positional_of_badStart :
    Scope.ofJson "[\"k:v\",null,\"now\"]"
        = Scope.ofJson "\x7b\"scope\":\"k:v\",\"location\":null,\"start\":\"now\"\x7d" ∧
      Scope.ofJson "[\"k:v\",null,\"now\"]" = .error (.shape (.notAnInstant .invalid)) ∧
      Scope.ofJson "[null,null,null,null,null,\x7b\x7d]" = .ok {} ∧
      Scope.ofJson "[null,null,null,null,null,\x7b\x7d,null]" = .error .malformed := by
  have hsix : Scope.ofJson "[null,null,null,null,null,\x7b\x7d]" = .ok {} := by
    decide +kernel
  refine ⟨?_, by decide +kernel, hsix, ?_⟩
  · exact ofJson_positional.2.array_eq_object [.ofString "k:v", .null, .ofString "now"] _ _
      (by decide) (by decide) (Json.Value.ofText?_of_tokenize? (by decide +kernel))
      (Json.Value.ofText?_of_tokenize? (by decide +kernel))
  · exact ofJson_positional.2.malformed [.null, .null, .null, .null, .null, .ofMembers []] [.null] _ _ _
      rfl (List.cons_ne_nil _ _) (Json.Value.ofText?_of_tokenize? (by decide +kernel))
      (Json.Value.ofText?_of_tokenize? (by decide +kernel)) hsix

end CanaryMetrics
