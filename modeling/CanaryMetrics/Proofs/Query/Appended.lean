import CanaryMetrics.Proofs.Query.Outcome
import CanaryMetrics.Proofs.Text.Joined

namespace CanaryMetrics.Appended

/-!
# Queries that are appended clause by clause

A query is put together from clauses that are collected and joined, and within the clause of
conditions and the lists once more.  Here the same text is made without any collecting: it starts
with the columns, and whatever else there is to say is appended to it, one piece after the other.

* `query` — the query of a metric and a scope made that way, or the refusal in words.
* `text_eq_appended` — a statement's joined clauses are the text with the pieces appended.
* `query_eq_appended` — both ways agree on every metric and every scope, refusals included.
-/

/-- A refusal in words: the class of the error and its message. -/
abbrev Refusal := BuildError.Kind × String

/-- A build error in words. -/
def refusal (e : BuildError) : Refusal :=
  (e.kind, e.message)

/-! ### The pieces -/

/-- The columns: every field, unless there are fields to choose. -/
def columns (fields : Option (List String)) : String :=
  match fields with
  | none | some [] => "*::field"
  | some fields => ", ".intercalate fields

/-- The text up to the end of the window. -/
def opening (fields : Option (List String)) (measurement : String) (start stop : Instant) :
    String :=
  "SELECT " ++ columns fields ++ " FROM " ++ measurement ++ " WHERE time >= '" ++ start.text
    ++ "' AND time < '" ++ stop.text ++ "'"

/-- Appends one condition. -/
def addCondition (text : String) (key value : String) : String :=
  text ++ " AND " ++ key ++ "='" ++ value ++ "'"

/-- Appends a condition for each entry, in the order of the entries, which is that of their keys. -/
def addTags (text : String) (tags : Option StringMap) : String :=
  match tags with
  | none => text
  | some tags => tags.entries.foldl (fun text e => addCondition text e.1 e.2) text

/-- Appends what to group by, if there is anything. -/
def addGroupBy (text : String) (groupBy : Option (List String)) : String :=
  match groupBy with
  | none | some [] => text
  | some groupBy => text ++ " GROUP BY " ++ ", ".intercalate groupBy

/-- The query of a metric and a scope, each piece appended to the ones before, or the first reason
    why there is none. -/
def query (m : Metric) (scope : Option Scope) : Except Refusal String :=
  if m.measurement = "" then .error (.configuration, "Measurement is required to query metrics")
  else
    match scope with
    | none => .error (.configuration, "CanaryScope is missing")
    | some s =>
      match s.start, s.stop with
      | some start, some stop =>
        let text := opening m.fields m.measurement start stop
        match s.expression with
        | none => .ok (addGroupBy (addTags text m.tags) m.groupBy)
        | some expression =>
          match Filter.ofParts? expression with
          | some f =>
            .ok (addGroupBy (addTags (addCondition text f.key f.value) m.tags) m.groupBy)
          | none =>
            .error (.scopeFormat, "Scope expected in the format of 'name:value'. "
              ++ "e.g. autoscaling_group:myapp-prod-v002, received: " ++ expression)
      | _, _ => .error (.configuration, "Start and End times are required")

/-! ### Joining is appending -/

/-- Appending conditions does not look at the text in front. -/
theorem foldl_addCondition_append (front text : String) (fs : List Filter) :
    fs.foldl (fun text f => addCondition text f.key f.value) (front ++ text)
      = front ++ fs.foldl (fun text f => addCondition text f.key f.value) text := by
  induction fs generalizing text with
  | nil => rfl
  | cons f fs ih =>
    have hstep : addCondition (front ++ text) f.key f.value
        = front ++ addCondition text f.key f.value := by
      simp only [addCondition, String.append_assoc]
    rw [List.foldl_cons, List.foldl_cons, hstep, ih]

/-- The clause of conditions has the window's two and then one condition for each filter. -/
theorem whereClause_eq (start stop : Instant) (fs : List Filter) :
    Statement.whereClause start stop fs
      = fs.foldl (fun text f => addCondition text f.key f.value)
          ("WHERE time >= '" ++ start.text ++ "' AND time < '" ++ stop.text ++ "'") := by
  have hwindow : "WHERE time >= '" ++ start.text ++ "' AND time < '" ++ stop.text ++ "'"
      = "WHERE "
        ++ ("time >= '" ++ start.text ++ "'" ++ " AND " ++ ("time < '" ++ stop.text ++ "'")) := by
    have hwhere : "WHERE time >= '" = "WHERE " ++ "time >= '" := by decide
    have hand : "' AND time < '" = "'" ++ (" AND " ++ "time < '") := by decide
    rw [hwhere, hand]
    simp only [String.append_assoc]
  -- the first condition starts the text, and every other one is appended to it
  rw [hwindow, foldl_addCondition_append]
  show "WHERE " ++ " AND ".intercalate (_ :: _ :: fs.map Filter.condition) = _
  rw [Text.intercalate_cons, List.foldl_cons, List.foldl_map]
  simp only [Filter.condition, addCondition, String.append_assoc]

/-! ### From a statement to its text -/

/-- The filters of tags are appended as the tags are. -/
theorem foldl_ofTags (text : String) (tags : Option StringMap) :
    (Filter.ofTags tags).foldl (fun text f => addCondition text f.key f.value) text
      = addTags text tags := by
  cases tags with
  | none => rfl
  | some tags => simp only [Filter.ofTags, addTags, Option.getD_some, List.foldl_map]

/-- The clauses up to the conditions. -/
theorem opening_eq (fields : Option (List String)) (measurement : String) (start stop : Instant) :
    opening fields measurement start stop
      = Statement.selectClause (fields.getD []) ++ " " ++ Statement.fromClause measurement ++ " "
          ++ ("WHERE time >= '" ++ start.text ++ "' AND time < '" ++ stop.text ++ "'") := by
  have hcolumns : Statement.selectClause (fields.getD []) = "SELECT " ++ columns fields := by
    rcases fields with _ | _ | ⟨f, fs⟩ <;> rfl
  have hfrom : " FROM " = " " ++ "FROM " := by decide
  have hwhere : " WHERE time >= '" = " " ++ "WHERE time >= '" := by decide
  unfold opening Statement.fromClause
  rw [hcolumns, hfrom, hwhere]
  simp only [String.append_assoc]

/-- Of the joined clauses the last one is appended if it is there. -/
theorem intercalate_groupByClause (columns measurement conditions : String)
    (groupBy : Option (List String)) :
    " ".intercalate ([columns, measurement, conditions]
        ++ (Statement.groupByClause? (groupBy.getD [])).toList)
      = addGroupBy (columns ++ " " ++ measurement ++ " " ++ conditions) groupBy := by
  -- no list, an empty one, and one with entries; only the last adds a clause
  rcases groupBy with _ | _ | ⟨e, es⟩
  · simp [Statement.groupByClause?, addGroupBy, String.append_assoc]
  · simp [Statement.groupByClause?, addGroupBy, String.append_assoc]
  · show " ".intercalate
        [columns, measurement, conditions, "GROUP BY " ++ ", ".intercalate (e :: es)]
      = columns ++ " " ++ measurement ++ " " ++ conditions ++ " GROUP BY "
        ++ ", ".intercalate (e :: es)
    have hspace : " GROUP BY " = " " ++ "GROUP BY " := by decide
    rw [hspace]
    simp only [String.intercalate_cons_cons, String.intercalate_singleton, String.append_assoc]

/-- A statement's clauses, joined, are the text with its pieces appended. -/
theorem text_eq_appended (m : Metric) (start stop : Instant) (fs : List Filter) :
    (m.statementFor start stop fs).text
      = addGroupBy
          (addTags
            (fs.foldl (fun text f => addCondition text f.key f.value)
              (opening m.fields m.measurement start stop))
            m.tags)
          m.groupBy := by
  rw [← foldl_ofTags, ← List.foldl_append, opening_eq, foldl_addCondition_append, ← whereClause_eq,
    ← intercalate_groupByClause]
  rfl

/-- With a measurement and a window the expression decides, and it decides alike. -/
theorem query_of_window {m : Metric} {s : Scope} {start stop : Instant} (hm : m.measurement ≠ "")
    (hstart : s.start = some start) (hstop : s.stop = some stop) :
    (m.query (some s)).mapError refusal = query m (some s) := by
  unfold Metric.query query
  rw [if_neg hm]
  simp only [hstart, hstop]
  -- the scope's filter, if there is one, is the first condition that is appended
  cases hexpression : s.expression with
  | none =>
    rw [Metric.statement_of_filters hm hstart hstop (Scope.filters_of_none hexpression)]
    exact congrArg Except.ok (text_eq_appended m start stop [])
  | some expression =>
    simp only [Filter.ofParts?_eq_ofExpression?]
    cases hf : Filter.ofExpression? expression with
    | none =>
      rw [Metric.statement_of_error hm hstart hstop (Scope.filters_of_malformed hexpression hf)]
      show Except.error
        (BuildError.Kind.scopeFormat, BuildError.malformedExpressionText ++ expression) = _
      rfl
    | some f =>
      rw [Metric.statement_of_filters hm hstart hstop (Scope.filters_of_some hexpression hf)]
      exact congrArg Except.ok (text_eq_appended m start stop [f])

/-- **Joined and appended queries agree.**  For every metric and every scope, present or not, the
    query that is put together from its clauses is the one that is appended piece by piece, and
    where there is none the same refusal comes first.  The expressions refused are those that are
    not a key and a value, both with something in them, around the only colon. -/
theorem query_eq_appended (m : Metric) (scope : Option Scope) :
    (m.query scope).mapError refusal = query m scope ∧
      ∀ expression f, Filter.ofParts? expression = some f ↔
        expression = f.key ++ ":" ++ f.value ∧ f.key ≠ "" ∧ f.value ≠ ""
          ∧ ':' ∉ f.key.toList ∧ ':' ∉ f.value.toList := by
  constructor
  · -- one case for each check, in the order of the checks
    by_cases hm : m.measurement = ""
    · rw [Metric.query, Metric.statement_of_measurementMissing hm]
      unfold query
      rw [if_pos hm]
      rfl
    rcases scope with _ | s
    · rw [Metric.query, Metric.statement_of_scopeMissing hm, query, if_neg hm]
      rfl
    rcases hstart : s.start with _ | start
    · rw [Metric.query, Metric.statement_of_windowMissing hm (.inl hstart), query, if_neg hm]
      simp only [hstart]
      rfl
    rcases hstop : s.stop with _ | stop
    · rw [Metric.query, Metric.statement_of_windowMissing hm (.inr hstop), query, if_neg hm]
      simp only [hstart, hstop]
      rfl
    exact query_of_window hm hstart hstop
  · intro expression f
    rw [Filter.ofParts?_eq_some_iff]
    constructor
    · rintro ⟨⟨hkey, hkeyColon, hvalue, hvalueColon⟩, rfl⟩
      exact ⟨rfl, hkey, hvalue, hkeyColon, hvalueColon⟩
    · rintro ⟨rfl, hkey, hvalue, hkeyColon, hvalueColon⟩
      exact ⟨⟨hkey, hkeyColon, hvalue, hvalueColon⟩, rfl⟩

end CanaryMetrics.Appended
