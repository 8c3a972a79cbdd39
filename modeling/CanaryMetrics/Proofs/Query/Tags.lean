import CanaryMetrics.Proofs.Metric.Described
import CanaryMetrics.Proofs.Query.Appended
import CanaryMetrics.Proofs.StringMap

namespace CanaryMetrics

open Json.Value (under under_append under_cons_of_mem under_cons_of_not_mem)

/-!
# What tags come to in a query

Tags are given as pairs, in code or as the members of a JSON object, and kept as a map.  A query has a
condition for each entry of the map.

* `Metric.Described.insert_tags` — members of `tags` make the map that the same pairs make.
* `Statement.exists_text_insert_filter` — a further filter is a further piece of a statement's text.
* `Metric.HasQuery`, `Metric.query_eq_ok_iff` — when there is a query, and its clauses with the conditions
  of the tags.
* `Metric.query_eq_error_iff` — when there is none, for which tags are no reason.
* `Metric.exists_query_insert_tag` — a tag with a new key is one more condition.
* `Metric.conditions_of_tags` — hence how the conditions of a query hang on the pairs.
-/

/-! ### Pairs as members -/

namespace Json.Value

/-- Pairs as the members of an object, in their order. -/
def ofPairs (pairs : List (String × String)) : Value :=
  .ofMembers (pairs.map fun p => (p.1, .ofString p.2))

/-- Such an object is the map that is made from the pairs. -/
theorem isStringMap_ofPairs (pairs : List (String × String)) :
    IsStringMap (ofPairs pairs) (.ofList pairs) :=
  .intro (StringMap.get?_ofList pairs)

end Json.Value

namespace Metric

/-- Members that describe a metric without tags describe it with tags when a member with the tags is put
    among them. -/
theorem Described.insert_tags {before after : List (Option String × Json.Value)} {m : Metric}
    (h : Described (before ++ after) m) (htags : under ["tags"] (before ++ after) = [])
    (pairs : List (String × String)) :
    Described (before ++ (some "tags", .ofPairs pairs) :: after) (m.withTags pairs) := by
  -- under the other keys there is what there was
  have hother : ∀ keys, "tags" ∉ keys →
      under keys (before ++ (some "tags", .ofPairs pairs) :: after) = under keys (before ++ after) := by
    intro keys hkeys
    rw [under_append, under_cons_of_not_mem hkeys, under_append]
  have hown : under ["tags"] (before ++ (some "tags", .ofPairs pairs) :: after) = [.ofPairs pairs] := by
    rw [under_append, List.append_eq_nil_iff] at htags
    rw [under_append, under_cons_of_mem (List.mem_singleton_self _), htags.1, htags.2, List.nil_append]
  refine ⟨fun member hmember => ?_, ?_, ?_, ?_, ?_⟩
  · rcases List.mem_append.1 hmember with hbefore | hafter
    · exact h.keys member (List.mem_append_left _ hbefore)
    · rcases List.mem_cons.1 hafter with rfl | hafter
      · exact fun hnone => by cases hnone
      · exact h.keys member (List.mem_append_right _ hafter)
  · rw [hother _ (by decide)]
    exact h.measurement
  · rw [hother _ (by decide)]
    exact h.fields
  · rw [hown]
    exact .value (Json.Value.isStringMap_ofPairs pairs)
  · rw [hother _ (by decide)]
    exact h.groupBy

end Metric

/-! ### Filters within a statement -/

namespace Appended

/-- What to group by is appended without looking at the text in front. -/
theorem addGroupBy_append (front text : String) (groupBy : Option (List String)) :
    addGroupBy (front ++ text) groupBy = front ++ addGroupBy text groupBy := by
  rcases groupBy with _ | _ | ⟨e, es⟩
  · rfl
  · rfl
  · simp only [addGroupBy, String.append_assoc]

end Appended

namespace Statement

open Appended (addCondition addGroupBy)

/-- The text of a statement up to the end of its window. -/
def opening (st : Statement) : String :=
  selectClause st.columns ++ " " ++ fromClause st.measurement ++ " "
    ++ ("WHERE time >= '" ++ st.start.text ++ "' AND time < '" ++ st.stop.text ++ "'")

/-- The filters are appended one after the other, and then what to group by. -/
theorem text_eq_foldl (st : Statement) :
    st.text = addGroupBy (st.filters.foldl (fun text f => addCondition text f.key f.value) st.opening)
      (some st.groupBy) := by
  rw [opening, Appended.foldl_addCondition_append, ← Appended.whereClause_eq,
    ← Appended.intercalate_groupByClause]
  rfl

/-- A filter that is put among the others is a piece that is put into the text, at a place that does not
    depend on it. -/
theorem exists_text_insert_filter (st : Statement) (before after : List Filter) :
    ∃ front back, ({ st with filters := before ++ after } : Statement).text = front ++ back ∧
      ∀ f : Filter, ({ st with filters := before ++ f :: after } : Statement).text
        = front ++ " AND " ++ f.key ++ "='" ++ f.value ++ "'" ++ back := by
  -- what is appended later does not look at what is in front of it
  have hsplit : ∀ text, addGroupBy (after.foldl (fun text f => addCondition text f.key f.value) text)
      (some st.groupBy) = text ++ addGroupBy
        (after.foldl (fun text f => addCondition text f.key f.value) "") (some st.groupBy) := by
    intro text
    rw [← Appended.addGroupBy_append, ← Appended.foldl_addCondition_append, String.append_empty]
  refine ⟨before.foldl (fun text f => addCondition text f.key f.value) st.opening,
    addGroupBy (after.foldl (fun text f => addCondition text f.key f.value) "") (some st.groupBy),
    ?_, fun f => ?_⟩
  · rw [text_eq_foldl, List.foldl_append, hsplit]
    rfl
  · rw [text_eq_foldl, List.foldl_append, List.foldl_cons, hsplit]
    rfl

/-- The clause of conditions, with the conditions of tags at its end. -/
def whereText (start stop : Instant) (filters : List Filter) (tags : List (String × String)) : String :=
  "WHERE " ++ " AND ".intercalate
    (["time >= '" ++ start.text ++ "'", "time < '" ++ stop.text ++ "'"]
      ++ filters.map Filter.condition ++ tags.map fun e => e.1 ++ "='" ++ e.2 ++ "'")

/-- The tags of a map are conditions in the order of its entries, after the other conditions. -/
theorem whereClause_ofTags (start stop : Instant) (filters : List Filter) (tags : Option StringMap) :
    whereClause start stop (filters ++ Filter.ofTags tags)
      = whereText start stop filters (tags.getD ∅).entries := by
  unfold whereClause conditions whereText Filter.ofTags
  rw [List.map_append, List.map_map, List.append_assoc]
  rfl

end Statement

/-! ### Queries and their tags -/

namespace Metric

variable {m : Metric} {scope : Option Scope}

/-- The query of a metric with certain conditions of tags. -/
def queryText (m : Metric) (start stop : Instant) (filters : List Filter)
    (tags : List (String × String)) : String :=
  " ".intercalate
    ([Statement.selectClause (m.fields.getD []), Statement.fromClause m.measurement,
        Statement.whereText start stop filters tags]
      ++ (Statement.groupByClause? (m.groupBy.getD [])).toList)

/-- A metric has a query for a scope when nothing is amiss; here it is the one with certain conditions of
    tags. -/
inductive HasQuery (m : Metric) (tags : List (String × String)) : Option Scope → String → Prop
  | intro {s : Scope} {start stop : Instant} {filters : List Filter} (hmeasurement : m.measurement ≠ "")
    (hstart : s.start = some start) (hstop : s.stop = some stop) (hfilters : s.filters = .ok filters) :
    HasQuery m tags (some s) (m.queryText start stop filters tags)

/-- The conditions of tags are the entries of the map. -/
theorem query_eq_ok_iff {q : String} :
    m.query scope = .ok q ↔ m.HasQuery (m.tags.getD ∅).entries scope q := by
  -- the text of the statement is that of the grammar, for any window and any conditions of the scope
  have htext : ∀ start stop filters, (m.statementFor start stop filters).text
      = m.queryText start stop filters (m.tags.getD ∅).entries := by
    intro start stop filters
    unfold queryText
    rw [← Statement.whereClause_ofTags]
    rfl
  unfold query
  rw [map_eq_ok_iff]
  simp only [statement_eq_ok_iff]
  constructor
  · rintro ⟨st, ⟨hm, s, start, stop, filters, rfl, hstart, hstop, hfilters, rfl⟩, rfl⟩
    exact htext start stop filters ▸ .intro hm hstart hstop hfilters
  · rintro ⟨hm, hstart, hstop, hfilters⟩
    exact ⟨_, ⟨hm, _, _, _, _, rfl, hstart, hstop, hfilters, rfl⟩, htext _ _ _⟩

/-- A query is refused for what is amiss with the measurement and the scope. -/
theorem query_eq_error_iff {e : BuildError} :
    m.query scope = .error e ↔ Amiss m.measurement scope e := by
  unfold query
  rw [map_eq_error_iff, statement_eq_error_iff]

/-- A tag with a new key is one more condition in a query. -/
theorem exists_query_insert_tag {q : String} (hq : m.query scope = .ok q) {tags : StringMap}
    (htags : m.tags.getD ∅ = tags) {key : String} (hkey : tags.get? key = none) (value : String) :
    ∃ front back, q = front ++ back ∧
      ({ m with tags := some (tags.insert key value) } : Metric).query scope
        = .ok (front ++ " AND " ++ key ++ "='" ++ value ++ "'" ++ back) := by
  obtain ⟨less, greater, hentries, hinsert⟩ := StringMap.exists_entries_insert hkey value
  obtain ⟨st, hst, rfl⟩ := map_eq_ok_iff.1 hq
  obtain ⟨hm, s, start, stop, fs, rfl, hstart, hstop, hfs, rfl⟩ := statement_eq_ok_iff.1 hst
  -- the filter of the new tag stands between those of the other tags
  let filter (e : String × String) : Filter := ⟨e.1, e.2⟩
  obtain ⟨front, back, htext, hinserted⟩ := (m.statementFor start stop []).exists_text_insert_filter
    (fs ++ less.map filter) (greater.map filter)
  refine ⟨front, back, ?_, ?_⟩
  · rw [← htext]
    unfold statementFor Filter.ofTags
    rw [htags, hentries, List.map_append, List.append_assoc]
  · rw [query, statement_of_filters (m := { m with tags := some (tags.insert key value) }) hm hstart
      hstop hfs]
    refine congrArg Except.ok (Eq.trans ?_ (hinserted (filter (key, value))))
    unfold statementFor Filter.ofTags
    rw [Option.getD_some, hinsert, List.map_append, List.map_cons, List.append_assoc]

/-- **The conditions of tags.**  For all pairs of keys and values,

    * a JSON object that describes a metric without tags describes it with these when a member with the
      pairs, in their order, is put among its members, wherever that is;
    * the conditions of a query with these tags are those of the window, that of the scope's expression,
      and then one for each key that the pairs have, with the last value given for it, in strictly
      ascending order of the keys;
    * only the order of pairs with the same key makes a difference to the query.

    A tag with a key that a metric's tags do not have is a condition that is put into the query at one
    place, and no reason for an error or against one. -/
theorem conditions_of_tags (pairs : List (String × String)) :
    (∀ before after text text' m,
      Json.Value.ofText? text = some (.object (before ++ after)) →
      under ["tags"] (before ++ after) = [] → ofJson text = .ok m →
      Json.Value.ofText? text' = some (.object (before ++ (some "tags", .ofPairs pairs) :: after)) →
        ofJson text' = .ok (m.withTags pairs)) ∧
      (∃ es, StringMap.LastPairs pairs es ∧
        (∀ start stop filters,
          Statement.whereClause start stop (filters ++ Filter.ofTags (some (.ofList pairs)))
            = Statement.whereText start stop filters es) ∧
        ∀ (m : Metric) scope q, (m.withTags pairs).query scope = .ok q ↔
          (m.withTags pairs).HasQuery es scope q) ∧
      (∀ pairs' : List (String × String),
        (∀ key, (pairs'.filter fun p => p.1 = key) = pairs.filter fun p => p.1 = key) →
          ∀ (m : Metric) scope, (m.withTags pairs').query scope = (m.withTags pairs).query scope) ∧
      ∀ (m : Metric) scope (tags : StringMap) key value,
        m.tags.getD ∅ = tags → tags.get? key = none →
          (∀ q, m.query scope = .ok q → ∃ front back, q = front ++ back ∧
            ({ m with tags := some (tags.insert key value) } : Metric).query scope
              = .ok (front ++ " AND " ++ key ++ "='" ++ value ++ "'" ++ back)) ∧
          ∀ e, ({ m with tags := some (tags.insert key value) } : Metric).query scope = .error e ↔
            m.query scope = .error e := by
  refine ⟨fun before after text text' m htext hnone hm htext' => ?_,
    ⟨(StringMap.ofList pairs).entries, StringMap.lastPairs_ofList pairs, fun start stop filters => ?_,
      fun m scope q => query_eq_ok_iff⟩,
    fun pairs' hpairs m scope => ?_,
    fun m scope tags key value htags hkey =>
      ⟨fun q hq => exists_query_insert_tag hq htags hkey value, fun e => ?_⟩⟩
  · -- with `tags` among them the members describe the same metric, but with these tags
    rw [ofJson, Json.Value.readJson_of_object htext] at hm
    rw [ofJson, Json.Value.readJson_of_object htext']
    exact ofMembers_eq_ok_iff.2 ((ofMembers_eq_ok_iff.1 hm).insert_tags hnone pairs)
  · exact Statement.whereClause_ofTags start stop filters (some (.ofList pairs))
  · rw [withTags, withTags, StringMap.ofList_eq_ofList hpairs]
  · rw [query_eq_error_iff, query_eq_error_iff]

/-- Of a key that comes twice the last value is kept, and it is what members of an object are read as. -/
theorem conditions_of_tags_of_twice :
    ofJson "\x7b\"tags\":\x7b\"b\":\"1\",\"a\":\"2\",\"b\":\"3\"\x7d,\"metricName\":\"cpu\"\x7d"
        = .ok ((named "cpu").withTags [("b", "1"), ("a", "2"), ("b", "3")]) ∧
      StringMap.LastPairs [("b", "1"), ("a", "2"), ("b", "3")] [("a", "2"), ("b", "3")] := by
  constructor
  · exact (conditions_of_tags [("b", "1"), ("a", "2"), ("b", "3")]).1
      [] [(some "metricName", .ofString "cpu")] "\x7b\"metricName\":\"cpu\"\x7d" _ (named "cpu")
      (Json.Value.ofText?_of_tokenize? (by decide +kernel)) (by decide) (by decide +kernel)
      (Json.Value.ofText?_of_tokenize? (by decide +kernel))
  · exact StringMap.lastPairs_ofList [("b", "1"), ("a", "2"), ("b", "3")]

end Metric

end CanaryMetrics
