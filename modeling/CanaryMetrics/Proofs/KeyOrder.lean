import CanaryMetrics.Proofs.Json.Records
import CanaryMetrics.Proofs.Query.Tags
import CanaryMetrics.Proofs.Text.Utf8

namespace CanaryMetrics

open Json.Value (under under_cons_of_mem under_cons_of_not_mem)
open Text (bytes codePoints)

/-!
# The order of the keys of a map

A map that is kept by the bytes of its keys is written as one that is kept by their code points.

* `StringMap.ByteOrdered` — the entries of a map in the order of their bytes.
* `StringMap.byteOrdered_iff` — that is the order in which the map has them.
* `Metric.under_tags_json`, `Scope.under_params_json` — a map as a member of the JSON text.
* `order_of_keys` — so the order by bytes is the order by code points, in queries and in JSON texts.
-/

namespace StringMap

/-- The entries of a map, with their keys strictly ascending by their bytes. -/
structure ByteOrdered (map : StringMap) (es : List (String × String)) : Prop where
  /-- The keys strictly ascend by their bytes. -/
  ascending : es.Pairwise fun a b => bytes a.1 < bytes b.1
  /-- These are the entries of the map. -/
  entries : ∀ e, e ∈ es ↔ e ∈ map.entries

/-- The order by bytes is the one in which a map has its entries. -/
theorem byteOrdered_iff {map : StringMap} {es : List (String × String)} :
    ByteOrdered map es ↔ es = map.entries := by
  constructor
  · intro h
    -- entries in this order are a map too, and it has the same values
    let other : StringMap := ⟨es, h.ascending.imp fun hlt => (Text.bytes_lt_bytes_iff _ _).1 hlt⟩
    have hget : ∀ key, other.get? key = map.get? key := fun key => Option.ext fun value => by
      rw [← mem_entries_iff, ← mem_entries_iff]
      exact h.entries (key, value)
    exact congrArg StringMap.entries (ext_get? hget)
  · rintro rfl
    exact ⟨map.ascending.imp fun hlt => (Text.bytes_lt_bytes_iff _ _).2 hlt, fun e => Iff.rfl⟩

end StringMap

/-! ### Maps in JSON texts -/

/-- The tags of a metric are the only member of that name in its JSON text. -/
theorem Metric.under_tags_json {m : Metric} {map : StringMap} (h : m.tags = some map) :
    ∃ members, Json.Value.ofText? m.json = some (.object members) ∧
      under ["tags"] members = [.ofPairs map.entries] := by
  refine ⟨_, Json.Value.ofText?_text m.readAs_jsonValue.proper, ?_⟩
  simp only [List.map_cons, List.map_nil, Metric.Field.name]
  rw [under_cons_of_not_mem (by decide), under_cons_of_not_mem (by decide),
    under_cons_of_mem (List.mem_singleton_self _), under_cons_of_not_mem (by decide), h]
  rfl

/-- The parameters of a scope are the only member of that name in its JSON text. -/
theorem Scope.under_params_json (s : Scope) :
    ∃ members, Json.Value.ofText? s.json = some (.object members) ∧
      under ["extendedScopeParams"] members = [.ofPairs s.params.entries] := by
  refine ⟨_, Json.Value.ofText?_text s.readAs_jsonValue.proper, ?_⟩
  simp only [List.map_cons, List.map_nil, Scope.Field.name]
  rw [under_cons_of_not_mem (by decide), under_cons_of_not_mem (by decide),
    under_cons_of_not_mem (by decide), under_cons_of_not_mem (by decide),
    under_cons_of_not_mem (by decide), under_cons_of_mem (List.mem_singleton_self _)]
  rfl

/-! ### Both orders -/

/-- **The order of keys.**  Strings compare by the bytes of UTF-8 as they compare by their code points.
    Therefore the entries of a map have one order by bytes, it is that by code points, and in this order

    * the tags of a metric are conditions of its query;
    * the tags of a metric and the parameters of a scope are members in their JSON texts. -/
theorem order_of_keys :
    (∀ s t, (bytes s < bytes t ↔ codePoints s < codePoints t) ∧
      (bytes s = bytes t ↔ codePoints s = codePoints t)) ∧
      ∀ map : StringMap, ∃ es, (∀ es', map.ByteOrdered es' ↔ es' = es) ∧
        es.Pairwise (fun a b => codePoints a.1 < codePoints b.1) ∧
        (∀ m : Metric, m.tags = some map →
          (∀ scope q, m.query scope = .ok q ↔ m.HasQuery es scope q) ∧
            ∃ members, Json.Value.ofText? m.json = some (.object members) ∧
              under ["tags"] members = [.ofPairs es]) ∧
        ∀ s : Scope, s.params = map →
          ∃ members, Json.Value.ofText? s.json = some (.object members) ∧
            under ["extendedScopeParams"] members = [.ofPairs es] := by
  refine ⟨fun s t => ⟨?_, ?_⟩, fun map => ⟨map.entries, fun es' => StringMap.byteOrdered_iff, ?_,
    fun m hm => ⟨fun scope q => ?_, Metric.under_tags_json hm⟩, ?_⟩⟩
  · -- UTF-8 and code points order texts as their characters are ordered
    rw [Text.bytes_lt_bytes_iff, Text.codePoints_lt_codePoints_iff]
  · rw [Text.bytes_eq_bytes_iff, Text.codePoints_eq_codePoints_iff]
  · exact map.ascending.imp fun hlt => (Text.codePoints_lt_codePoints_iff _ _).2 hlt
  · rw [Metric.query_eq_ok_iff, hm, Option.getD_some]
  · rintro s rfl
    exact s.under_params_json

end CanaryMetrics
