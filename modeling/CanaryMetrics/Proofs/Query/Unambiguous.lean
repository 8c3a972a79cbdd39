import CanaryMetrics.Proofs.Instant.RoundTrip
import CanaryMetrics.Proofs.Query.Outcome
import CanaryMetrics.Proofs.Text.Joined

namespace CanaryMetrics

open Text

/-!
# Queries can be told apart

Nothing that goes into a query is escaped.  Where nothing would have to be, the query still shows
all that it was made from: each part of its text can be taken off, and what follows is left as it
was, whatever words the part consists of.

* `Statement.text_inj` — statements whose parts need no escaping have different texts unless they
  are the same, every field being the same as no fields.
* `Metric.query_eq_query_iff` — the same for metrics and scopes, and what of a scope a query does
  not depend on.
-/

namespace Statement

/-! ### The characters of a statement -/

/-- The columns that a statement names. -/
def namedColumns (columns : List String) : List String :=
  if columns = [] then [everyField] else columns

/-- The filters, each of them after the conditions in front of it. -/
def filterChars (fs : List Filter) : List Char :=
  fs.flatMap fun f => (" AND " ++ f.condition).toList

/-- The end of a statement: what to group by, if there is anything. -/
def groupByChars (groupBy : List String) : List Char :=
  (if groupBy = [] then "" else " GROUP BY " ++ ", ".intercalate groupBy).toList

theorem toList_selectClause (columns : List String) :
    (selectClause columns).toList
      = "SELECT ".toList ++ (", ".intercalate (namedColumns columns)).toList := by
  unfold selectClause namedColumns
  split
  · rw [String.toList_append, String.intercalate_singleton]
  · rw [String.toList_append]

theorem toList_whereClause (start stop : Instant) (fs : List Filter) :
    (whereClause start stop fs).toList
      = "WHERE time >= ".toList ++ '\'' :: (start.text.toList ++ '\'' ::
          (" AND time < ".toList ++ '\'' :: (stop.text.toList ++ '\'' :: filterChars fs))) := by
  have hfilters : (fs.map Filter.condition).flatMap (fun item => " AND ".toList ++ item.toList)
      = filterChars fs := by
    simp only [filterChars, List.flatMap_map, String.toList_append]
  unfold whereClause conditions
  rw [String.toList_append, List.cons_append, toList_intercalate_cons, List.cons_append,
    List.flatMap_cons, List.nil_append, hfilters]
  simp

theorem flatMap_groupByClause (groupBy : List String) :
    (groupByClause? groupBy).toList.flatMap (fun item => " ".toList ++ item.toList)
      = groupByChars groupBy := by
  unfold groupByClause? groupByChars
  split
  · rfl
  · simp

/-- The text of a statement, part by part. -/
theorem toList_text (s : Statement) :
    s.text.toList
      = "SELECT ".toList ++ ((", ".intercalate (namedColumns s.columns)).toList ++ ' ' ::
          ("FROM ".toList ++ (s.measurement.toList ++ " WHERE time >= ".toList ++ '\'' ::
            (s.start.text.toList ++ '\'' ::
              (" AND time < ".toList ++ '\'' :: (s.stop.text.toList ++ '\'' ::
                (filterChars s.filters ++ groupByChars s.groupBy))))))) := by
  unfold text clauses
  rw [List.cons_append, toList_intercalate_cons, toList_selectClause, List.cons_append,
    List.flatMap_cons, List.cons_append, List.flatMap_cons, List.nil_append, flatMap_groupByClause,
    toList_whereClause, fromClause, String.toList_append]
  simp

/-! ### Taking the parts off -/

/-- Nothing in a statement has to be escaped. -/
structure NeedsNoEscape (s : Statement) : Prop where
  /-- Columns are separated by commas and followed by a space. -/
  columns : ∀ c ∈ s.columns, ',' ∉ c.toList ∧ ' ' ∉ c.toList
  /-- The first quote comes after the measurement. -/
  measurement : '\'' ∉ s.measurement.toList
  /-- Values stand in quotes, and keys in front of them. -/
  filters : ∀ f ∈ s.filters, '\'' ∉ f.key.toList ∧ '\'' ∉ f.value.toList
  /-- Expressions to group by are separated by commas. -/
  groupBy : ∀ e ∈ s.groupBy, ',' ∉ e.toList

/-- The text of an instant holds no quote. -/
theorem quote_not_mem_text (t : Instant) : '\'' ∉ t.text.toList := by
  intro h
  rcases Instant.isTextChar_of_mem_text h with hdigit | hmark
  · exact absurd hdigit (by decide)
  · exact absurd hmark (by decide)

/-- The first columns of a text end before the first space that no comma precedes. -/
theorem namedColumns_append_inj {cs ds : List String} {us vs : List Char}
    (hc : ∀ c ∈ cs, ',' ∉ c.toList ∧ ' ' ∉ c.toList)
    (hd : ∀ d ∈ ds, ',' ∉ d.toList ∧ ' ' ∉ d.toList)
    (h : (", ".intercalate (namedColumns cs)).toList ++ ' ' :: us
      = (", ".intercalate (namedColumns ds)).toList ++ ' ' :: vs) :
    namedColumns cs = namedColumns ds ∧ us = vs := by
  have hne : ∀ cs, namedColumns cs ≠ [] := by
    intro cs
    unfold namedColumns
    split
    · exact List.cons_ne_nil _ _
    · assumption
  -- a star or names without commas and blanks, so that each name ends where the next mark comes
  have hfree : ∀ {cs : List String}, (∀ c ∈ cs, ',' ∉ c.toList ∧ ' ' ∉ c.toList) →
      ∀ c ∈ namedColumns cs, ∀ x ∈ c.toList, (x == ',' || x == ' ') = false := by
    intro cs hcs c hmem x hx
    have hc : ',' ∉ c.toList ∧ ' ' ∉ c.toList := by
      unfold namedColumns at hmem
      split at hmem
      · rw [List.mem_singleton.1 hmem]; decide
      · exact hcs c hmem
    simp only [Bool.or_eq_false_iff, beq_eq_false_iff_ne]
    exact ⟨fun heq => hc.1 (heq ▸ hx), fun heq => hc.2 (heq ▸ hx)⟩
  obtain ⟨hcolumns, hrest⟩ := toList_intercalate_append_inj (p := fun x => x == ',' || x == ' ')
    (hne cs) (hne ds) (by decide) (hfree hc) (hfree hd) (by simp) (by simp) h
  exact ⟨hcolumns, (List.cons.inj hrest).2⟩

/-- What comes after the filters begins unlike a filter. -/
def EndsFilters (us : List Char) : Prop :=
  ∀ rest, us ≠ ' ' :: 'A' :: rest

/-- Nothing to group by, or something, begins unlike a filter. -/
theorem endsFilters_groupByChars (groupBy : List String) : EndsFilters (groupByChars groupBy) := by
  intro rest h
  unfold groupByChars at h
  split at h
  · cases h
  · rw [String.toList_append] at h
    cases h

/-- One filter is taken off, key and value ending at their quotes. -/
theorem condition_append_inj {f g : Filter} {us vs : List Char}
    (hf : '\'' ∉ f.key.toList ∧ '\'' ∉ f.value.toList)
    (hg : '\'' ∉ g.key.toList ∧ '\'' ∉ g.value.toList)
    (h : f.condition.toList ++ us = g.condition.toList ++ vs) : f = g ∧ us = vs := by
  -- the first quote ends the key with its equals sign, the second one the value
  have hchars : ∀ (f : Filter) (us : List Char), f.condition.toList ++ us
      = (f.key.toList ++ ['=']) ++ '\'' :: (f.value.toList ++ '\'' :: us) := by
    intro f us
    simp [Filter.condition]
  rw [hchars, hchars] at h
  obtain ⟨hkey, hvalues⟩ := append_cons_inj (by simp [hf.1]) (by simp [hg.1]) h
  obtain ⟨hvalue, hrest⟩ := append_cons_inj hf.2 hg.2 hvalues
  obtain ⟨key, value⟩ := f
  obtain ⟨key', value'⟩ := g
  simp only [Filter.mk.injEq]
  exact ⟨⟨String.toList_inj.1 (List.append_cancel_right hkey), String.toList_inj.1 hvalue⟩, hrest⟩

/-- All filters are taken off. -/
theorem filterChars_append_inj {fs gs : List Filter} {us vs : List Char}
    (hf : ∀ f ∈ fs, '\'' ∉ f.key.toList ∧ '\'' ∉ f.value.toList)
    (hg : ∀ g ∈ gs, '\'' ∉ g.key.toList ∧ '\'' ∉ g.value.toList)
    (hu : EndsFilters us) (hv : EndsFilters vs)
    (h : filterChars fs ++ us = filterChars gs ++ vs) : fs = gs ∧ us = vs := by
  have hcons : ∀ (f : Filter) (fs : List Filter) (us : List Char), filterChars (f :: fs) ++ us
      = ' ' :: 'A' :: 'N' :: 'D' :: ' ' :: (f.condition.toList ++ (filterChars fs ++ us)) := by
    intro f fs us
    simp [filterChars]
  -- where one list is at its end, so is the other, since what follows looks like no filter
  induction fs generalizing gs with
  | nil =>
    cases gs with
    | nil => exact ⟨rfl, h⟩
    | cons g gs => exact absurd (h.trans (hcons g gs vs)) (hu _)
  | cons f fs ih =>
    cases gs with
    | nil => exact absurd (h.symm.trans (hcons f fs us)) (hv _)
    | cons g gs =>
      rw [hcons, hcons] at h
      simp only [List.cons.injEq, true_and] at h
      obtain ⟨rfl, hrest⟩ :=
        condition_append_inj (hf f List.mem_cons_self) (hg g List.mem_cons_self) h
      obtain ⟨rfl, rfl⟩ := ih (fun x hx => hf x (List.mem_cons_of_mem _ hx))
        (fun x hx => hg x (List.mem_cons_of_mem _ hx)) hrest
      exact ⟨rfl, rfl⟩

/-- What to group by can be told from the end of the text. -/
theorem groupByChars_inj {es ds : List String} (he : ∀ e ∈ es, ',' ∉ e.toList)
    (hd : ∀ d ∈ ds, ',' ∉ d.toList) (h : groupByChars es = groupByChars ds) : es = ds := by
  have hfree : ∀ {es : List String}, (∀ e ∈ es, ',' ∉ e.toList) →
      ∀ e ∈ es, ∀ x ∈ e.toList, (x == ',') = false := by
    intro es hes e hmem x hx
    exact beq_eq_false_iff_ne.2 fun heq => hes e hmem (heq ▸ hx)
  unfold groupByChars at h
  -- without entries nothing is written, not even the words of the clause
  by_cases hes : es = []
  · by_cases hds : ds = []
    · rw [hes, hds]
    · rw [if_pos hes, if_neg hds, String.toList_append] at h
      cases h
  · by_cases hds : ds = []
    · rw [if_neg hes, if_pos hds, String.toList_append] at h
      cases h
    · rw [if_neg hes, if_neg hds, String.toList_append, String.toList_append] at h
      have hitems : (", ".intercalate es).toList ++ [] = (", ".intercalate ds).toList ++ [] := by
        rw [List.append_cancel_left h]
      exact (toList_intercalate_append_inj (p := (· == ',')) hes hds (by decide) (hfree he)
        (hfree hd) stops_nil stops_nil hitems).1

/-- **Statements can be told apart.**  Statements in which nothing has to be escaped have the same
    text only if they have the same parts, naming no column being the same as naming every field. -/
theorem text_inj {s s' : Statement} (hs : s.NeedsNoEscape) (hs' : s'.NeedsNoEscape)
    (h : s.text = s'.text) :
    namedColumns s.columns = namedColumns s'.columns ∧ s.measurement = s'.measurement ∧
      s.start = s'.start ∧ s.stop = s'.stop ∧ s.filters = s'.filters ∧ s.groupBy = s'.groupBy := by
  have hchars := congrArg String.toList h
  rw [toList_text, toList_text] at hchars
  obtain ⟨hcolumns, hchars⟩ :=
    namedColumns_append_inj hs.columns hs'.columns (List.append_cancel_left hchars)
  -- from here on every part ends at a quote
  obtain ⟨hmeasurement, hchars⟩ := append_cons_inj (by simp [hs.measurement])
    (by simp [hs'.measurement]) (List.append_cancel_left hchars)
  obtain ⟨hstart, hchars⟩ :=
    append_cons_inj (quote_not_mem_text s.start) (quote_not_mem_text s'.start) hchars
  obtain ⟨-, hchars⟩ := append_cons_inj (by decide) (by decide) hchars
  obtain ⟨hstop, hchars⟩ :=
    append_cons_inj (quote_not_mem_text s.stop) (quote_not_mem_text s'.stop) hchars
  obtain ⟨hfilters, hchars⟩ := filterChars_append_inj hs.filters hs'.filters
    (endsFilters_groupByChars _) (endsFilters_groupByChars _) hchars
  exact ⟨hcolumns, String.toList_inj.1 (List.append_cancel_right hmeasurement),
    Instant.text_injective (String.toList_inj.1 hstart),
    Instant.text_injective (String.toList_inj.1 hstop), hfilters,
    groupByChars_inj hs.groupBy hs'.groupBy hchars⟩

end Statement

namespace Metric

/-! ### What a query shows -/

/-- The columns to select, every field standing for no fields. -/
def selectList (m : Metric) : List String :=
  Statement.namedColumns (m.fields.getD [])

/-- The keys with their values that are asked for: that of the scope, if it has one, and then those
    of the tags, in key order. -/
def conditionList (m : Metric) (scope : Option Scope) : List Filter :=
  ((scope.bind Scope.expression).bind Filter.ofExpression?).toList ++ Filter.ofTags m.tags

/-- Nothing of a metric and a scope has to be escaped in their query. -/
structure NeedsNoEscape (m : Metric) (scope : Option Scope) : Prop where
  /-- Fields are separated by commas and followed by a space. -/
  fields : ∀ f ∈ m.fields.getD [], ',' ∉ f.toList ∧ ' ' ∉ f.toList
  /-- The first quote comes after the measurement. -/
  measurement : '\'' ∉ m.measurement.toList
  /-- Values stand in quotes, and keys in front of them. -/
  conditions : ∀ f ∈ m.conditionList scope, '\'' ∉ f.key.toList ∧ '\'' ∉ f.value.toList
  /-- Expressions to group by are separated by commas. -/
  groupBy : ∀ e ∈ m.groupBy.getD [], ',' ∉ e.toList

/-- A query is the text of a statement that shows the parts of the metric and the scope. -/
theorem exists_statement_of_query {m : Metric} {scope : Option Scope} {q : String}
    (h : m.query scope = .ok q) :
    ∃ st : Statement, q = st.text ∧ st.columns = m.fields.getD [] ∧ st.measurement = m.measurement ∧
      some st.start = scope.bind Scope.start ∧ some st.stop = scope.bind Scope.stop ∧
      st.filters = m.conditionList scope ∧ st.groupBy = m.groupBy.getD [] := by
  unfold query at h
  cases hst : m.statement scope with
  | error e =>
    rw [hst] at h
    cases h
  | ok st =>
    rw [hst, map_ok] at h
    obtain ⟨-, s, start, stop, fs, rfl, hstart, hstop, hfs, rfl⟩ := statement_eq_ok_iff.1 hst
    refine ⟨m.statementFor start stop fs, (Except.ok.inj h).symm, rfl, rfl, hstart.symm,
      hstop.symm, ?_, rfl⟩
    show fs ++ _ = _
    rw [conditionList, Option.bind_some, Scope.filters_eq_ok hfs]

/-- A query does not depend on a scope's location, step and further parameters. -/
theorem query_map_with (m : Metric) (scope : Option Scope) (location : Option String)
    (step : Option UInt64) (params : StringMap) :
    m.query (scope.map fun s => { s with location, step, params }) = m.query scope := by
  cases scope <;> rfl

/-- **Queries can be told apart.**  Where nothing has to be escaped, two queries are the same
    exactly if columns, measurement, window, conditions and grouping are the same, whatever words
    they consist of.  The other parts of a scope have no influence on the query. -/
theorem query_eq_query_iff {m m' : Metric} {scope scope' : Option Scope} {q q' : String}
    (hq : m.query scope = .ok q) (hq' : m'.query scope' = .ok q')
    (h : m.NeedsNoEscape scope) (h' : m'.NeedsNoEscape scope') :
    (q = q' ↔ m.selectList = m'.selectList ∧ m.measurement = m'.measurement ∧
      scope.bind Scope.start = scope'.bind Scope.start ∧
      scope.bind Scope.stop = scope'.bind Scope.stop ∧
      m.conditionList scope = m'.conditionList scope' ∧
      m.groupBy.getD [] = m'.groupBy.getD []) ∧
    ∀ location step params,
      m.query (scope.map fun s => { s with location, step, params }) = .ok q := by
  refine ⟨?_, fun location step params => (query_map_with m scope location step params).trans hq⟩
  obtain ⟨st, rfl, hcolumns, hmeasurement, hstart, hstop, hfilters, hgroupBy⟩ :=
    exists_statement_of_query hq
  obtain ⟨st', rfl, hcolumns', hmeasurement', hstart', hstop', hfilters', hgroupBy'⟩ :=
    exists_statement_of_query hq'
  unfold selectList
  rw [← hcolumns, ← hcolumns', ← hmeasurement, ← hmeasurement', ← hstart, ← hstart', ← hstop,
    ← hstop', ← hfilters, ← hfilters', ← hgroupBy, ← hgroupBy', Option.some.injEq,
    Option.some.injEq]
  constructor
  · have hst : st.NeedsNoEscape := ⟨hcolumns ▸ h.fields, hmeasurement ▸ h.measurement,
      hfilters ▸ h.conditions, hgroupBy ▸ h.groupBy⟩
    have hst' : st'.NeedsNoEscape := ⟨hcolumns' ▸ h'.fields, hmeasurement' ▸ h'.measurement,
      hfilters' ▸ h'.conditions, hgroupBy' ▸ h'.groupBy⟩
    exact Statement.text_inj hst hst'
  · -- the text shows no more than these parts
    rintro ⟨hc, hm, hs, he, hf, hg⟩
    apply String.toList_inj.1
    rw [Statement.toList_text, Statement.toList_text, hc, hm, hs, he, hf, hg]

/-- Values that read like conditions and clauses do not make a query another one. -/
theorem query_ne_of_value_like_clauses :
    ∃ q q',
      ((Metric.named "cpu").withTags [("a", "1 AND b=2 GROUP BY c")]).query
          (some ((Scope.window ⟨0, 0, by decide, by decide, by decide⟩
            ⟨59, 1000000000, by decide, by decide, by decide⟩).withExpression "k:v")) = .ok q ∧
      (((Metric.named "cpu").withTags [("a", "1"), ("b", "2")]).withGroupBy ["c"]).query
          (some ((Scope.window ⟨0, 0, by decide, by decide, by decide⟩
            ⟨59, 1000000000, by decide, by decide, by decide⟩).withExpression "k:v")) = .ok q' ∧
      q ≠ q' := by
  refine ⟨_, _, rfl, rfl, ?_⟩
  intro h
  have hneeds : ((Metric.named "cpu").withTags [("a", "1 AND b=2 GROUP BY c")]).NeedsNoEscape
      (some ((Scope.window ⟨0, 0, by decide, by decide, by decide⟩
        ⟨59, 1000000000, by decide, by decide, by decide⟩).withExpression "k:v")) :=
    ⟨by decide, by decide, by decide +kernel, by decide⟩
  have hneeds' :
      (((Metric.named "cpu").withTags [("a", "1"), ("b", "2")]).withGroupBy ["c"]).NeedsNoEscape
        (some ((Scope.window ⟨0, 0, by decide, by decide, by decide⟩
          ⟨59, 1000000000, by decide, by decide, by decide⟩).withExpression "k:v")) :=
    ⟨by decide, by decide, by decide +kernel, by decide⟩
  have hparts := (query_eq_query_iff rfl rfl hneeds hneeds').1.1 h
  exact absurd hparts.2.2.2.2.2 (by decide)

end Metric

end CanaryMetrics
