import CanaryMetrics.Proofs.CommandLine.EveryMetric
import CanaryMetrics.Proofs.Json.Records
import CanaryMetrics.Proofs.Query.Unambiguous
import CanaryMetrics.Session

namespace CanaryMetrics

open Datum Json.Value

/-!
# Rendering a single metric

With a metric's name only the first entry of that name is looked for and rendered.  Here that is
compared with rendering all entries, and with building the query from JSON texts.

* `Catalog.find?_queries_eq`, `Catalog.metric?_of_first` — the first query under a name.
* `Scope.windowJson`, `Scope.ofJson_windowJson` — a JSON document with a window's texts and an
  expression, and the scope that is read from it.
* `queryOfJson_json` — building from JSON texts is building from what they were written for.
* `outcome_single_metric` — all that can be said of a run with a metric's name.
-/

/-! ### The first entry of a name -/

namespace Catalog

/-- The first query under a name is the one of the name's metric. -/
theorem find?_queries_eq (c : Catalog) (scope : Scope) (name : String) :
    ((c.queries scope).find? fun q => q.1 = name)
      = (c.metric? name).map fun m => (name, m.query (some scope)) := by
  simp only [queries, metric?, List.find?_map, Option.map_map]
  -- looking among the pairs is looking among the entries, so both find the same entry
  cases hfind : c.entries.find? ((fun q : String × Except BuildError String => q.1 = name) ∘
      fun e => (e.name, e.metric.query (some scope))) with
  | none =>
    have hnone : (c.entries.find? fun e => e.name = name) = none := hfind
    rw [hnone]
    rfl
  | some e =>
    have hsome : (c.entries.find? fun e => e.name = name) = some e := hfind
    have hname : e.name = name := by simpa using List.find?_some hsome
    rw [hsome]
    simp [hname]

/-- An entry counts when no entry of its name stands before it. -/
theorem metric?_of_first {c : Catalog} {before after : List Entry} {e : Entry}
    (hentries : c.entries = before ++ e :: after) (hfirst : ∀ b ∈ before, b.name ≠ e.name) :
    c.metric? e.name = some e.metric := by
  have hbefore : (before.find? fun b => b.name = e.name) = none := by
    rw [List.find?_eq_none]
    intro b hb
    simpa using hfirst b hb
  simp [metric?, hentries, List.find?_append, hbefore]

end Catalog

/-! ### Building from JSON texts -/

/-- A JSON document with the texts of a window's ends and an expression, if there is one. -/
def Scope.windowJson (start stop : String) (expression : Option String) : String :=
  (Json.Value.ofMembers
    [(Field.expression.name, .ofOption .ofString expression),
     (Field.start.name, .ofString start),
     (Field.stop.name, .ofString stop)]).text

/-- The scope that is read from it has the instants that the texts spell. -/
theorem Scope.ofJson_windowJson {start stop : String} {t u : Instant}
    (hstart : Instant.ofText start = .ok t) (hstop : Instant.ofText stop = .ok u)
    (expression : Option String) :
    ofJson (windowJson start stop expression)
      = .ok { expression, start := some t, stop := some u } := by
  have hexpression : ReadAs (readOptional readString) (.ofOption .ofString expression) expression :=
    readAs_ofOption (fun _ h => by cases h) readAs_ofString expression
  have ht : (ofString start).datum.readOptional readInstant = .ok (some t) :=
    readOptional_of_ok (fun _ h => by cases h) (readAs_of_ofText hstart).read_datum
  have hu : (ofString stop).datum.readOptional readInstant = .ok (some u) :=
    readOptional_of_ok (fun _ h => by cases h) (readAs_of_ofText hstop).read_datum
  -- it is enough that the object can be written and that its data are read as this scope
  refine readJson_of_readAs ⟨?_, ?_⟩
  · apply proper_ofMembers
    simp only [List.mem_cons, List.not_mem_nil, or_false, forall_eq_or_imp, forall_eq]
    exact ⟨hexpression.proper, proper_ofString start, proper_ofString stop⟩
  · rw [datum_ofMembers]
    simp only [List.map_cons, List.map_nil, ofDatum, ofMembers, readMembers_nil,
      readMembers_cons (Field.ofKey?_name _), Draft.read, readOnce_none, hexpression.read_datum,
      ht, hu, map_ok, ok_bind, pure, Except.pure]
    rfl

/-- A query depends on a scope's expression and window only. -/
theorem Metric.query_congr (m : Metric) {s s' : Scope} (hexpression : s.expression = s'.expression)
    (hstart : s.start = s'.start) (hstop : s.stop = s'.stop) :
    m.query (some s) = m.query (some s') := by
  -- two such scopes differ in the other fields at most, which no query looks at
  have hs : s' = { s with location := s'.location, step := s'.step, params := s'.params } := by
    cases s; cases s'; simp_all
  rw [hs]
  exact (m.query_map_with (some s) s'.location s'.step s'.params).symm

/-- Building from a metric's JSON text and from a document that is read as a scope is building for
    the metric and the scope. -/
theorem queryOfJson_json (m : Metric) {document : String} {s : Scope}
    (h : Scope.ofJson document = .ok s) :
    queryOfJson m.json (some document) = (m.query (some s)).mapError .noQuery := by
  have hmetric : (Metric.ofJson m.json).mapError Failure.unreadable = .ok m :=
    congrArg (Except.mapError _) (readJson_of_readAs m.readAs_jsonValue)
  have hscope : ((some document).mapM fun text =>
      (Scope.ofJson text).mapError Failure.unreadable) = .ok (some s) := by
    simp only [Option.mapM_some, h]
    rfl
  rw [queryOfJson, hmetric, ok_bind, hscope, ok_bind]

/-! ### The run -/

namespace CommandLine

section Run

variable {arguments : List String} {env : Environment} {find? : String → Option FileNode} {j : Job}
  {c : Catalog} {event : Event} {name : String}

/-- The run comes to a report on the entry of the name. -/
theorem outcome_of_load_single (hplan : plan arguments env = .inr j) (hmetric : j.metric = some name)
    (hload : Catalog.load j.path (find? j.path) = .ok (c, event)) :
    outcome arguments env find? = .done { j.renderOne c name with log := [event] } := by
  rw [outcome_of_load hplan hload, Job.render, hmetric]

/-- The report on the entry of a name depends on its metric and the expression in effect only. -/
theorem renderOne_eq (j : Job) (c : Catalog) (name : String) :
    j.renderOne c name = match (c.queries (scopeInEffect j c)).find? (fun q => q.1 = name) with
      | none => { error := some (.noSuchMetric name j.path) }
      | some (_, .ok query) => { output := query ++ "\n" }
      | some (_, .error e) => { error := some (.noQuery e) } := by
  rw [Catalog.find?_queries_eq, Job.renderOne, scope_eq_scopeInEffect]
  cases c.metric? name with
  | none => rfl
  | some m => cases hquery : m.query (some (scopeInEffect j c)) <;> simp [hquery]

/-- The query of the first entry of the name is printed, and that is a success. -/
theorem output_single_metric_iff (hplan : plan arguments env = .inr j)
    (hmetric : j.metric = some name)
    (hload : Catalog.load j.path (find? j.path) = .ok (c, event)) (query : String) :
    ((outcome arguments env find?).output = query ++ "\n" ∧
        (outcome arguments env find?).exitStatus = 0) ↔
      (c.queries (scopeInEffect j c)).find? (fun q => q.1 = name) = some (name, .ok query) := by
  rw [outcome_of_load_single hplan hmetric hload, renderOne_eq, Catalog.find?_queries_eq]
  -- no entry with the name, one whose query fails, and one whose query is printed
  cases c.metric? name with
  | none => simp [Outcome.exitStatus, Report.exitStatus]
  | some m =>
    cases hquery : m.query (some (scopeInEffect j c)) with
    | error error => simp [hquery, Outcome.exitStatus, Report.exitStatus]
    | ok query' => simp [hquery, Outcome.output, Outcome.exitStatus, Report.exitStatus]

/-- Otherwise nothing is printed, and that is a failure. -/
theorem output_single_metric_eq_empty (hplan : plan arguments env = .inr j)
    (hmetric : j.metric = some name)
    (hload : Catalog.load j.path (find? j.path) = .ok (c, event))
    (hnone : ∀ query, (c.queries (scopeInEffect j c)).find? (fun q => q.1 = name)
      ≠ some (name, .ok query)) :
    (outcome arguments env find?).output = "" ∧ (outcome arguments env find?).exitStatus ≠ 0 := by
  rw [outcome_of_load_single hplan hmetric hload, renderOne_eq]
  rw [Catalog.find?_queries_eq] at hnone ⊢
  cases hfound : c.metric? name with
  | none => exact ⟨rfl, Nat.one_ne_zero⟩
  | some m =>
    rw [hfound, Option.map_some] at hnone
    rw [Option.map_some]
    cases hquery : m.query (some (scopeInEffect j c)) with
    | error error => exact ⟨rfl, Nat.one_ne_zero⟩
    | ok query => exact absurd (congrArg (fun r => some (name, r)) hquery) (hnone query)

/-- The query that is found under the name of a first entry is its own. -/
theorem find?_queries_of_first {before after : List Catalog.Entry} {e : Catalog.Entry}
    (hentries : c.entries = before ++ e :: after) (hfirst : ∀ b ∈ before, b.name ≠ e.name)
    (scope : Scope) :
    (c.queries scope).find? (fun q => q.1 = e.name)
      = some (e.name, e.metric.query (some scope)) := by
  rw [Catalog.find?_queries_eq, Catalog.metric?_of_first hentries hfirst]
  rfl

/-- **A run with a metric's name.**  Whatever the arguments are, once they are accepted and the catalog
    is loaded or absent:

    * a query is printed and the exit status is 0 exactly if it is the first one under the name when
      all entries are rendered;
    * otherwise nothing is printed and the exit status is another one;
    * the query is the one that is built from the metric's JSON text and any document that is read as
      a scope with the same window and expression, such as the one with the same texts;
    * neither the entries before the first one of the name nor those after it have any influence. -/
theorem outcome_single_metric (hplan : plan arguments env = .inr j) (hmetric : j.metric = some name)
    (hload : Catalog.load j.path (find? j.path) = .ok (c, event)) :
    (∀ query, ((outcome arguments env find?).output = query ++ "\n" ∧
        (outcome arguments env find?).exitStatus = 0) ↔
      (c.queries (scopeInEffect j c)).find? (fun q => q.1 = name) = some (name, .ok query)) ∧
    ((∀ query, (c.queries (scopeInEffect j c)).find? (fun q => q.1 = name)
        ≠ some (name, .ok query)) →
      (outcome arguments env find?).output = "" ∧
        (outcome arguments env find?).exitStatus ≠ 0) ∧
    ∀ before e after, c.entries = before ++ e :: after → e.name = name →
      (∀ b ∈ before, b.name ≠ name) →
      (∀ document s, Scope.ofJson document = .ok s →
        s.expression = inEffect j.expression c.defaultExpression →
        s.start = some j.start → s.stop = some j.stop →
        ∀ query, queryOfJson e.metric.json (some document) = .ok query ↔
          ((outcome arguments env find?).output = query ++ "\n" ∧
            (outcome arguments env find?).exitStatus = 0)) ∧
      (∀ start stop, Instant.ofText start = .ok j.start → Instant.ofText stop = .ok j.stop →
        Scope.ofJson (Scope.windowJson start stop (inEffect j.expression c.defaultExpression))
          = .ok (scopeInEffect j c)) ∧
      ∀ find?' c' event', Catalog.load j.path (find?' j.path) = .ok (c', event') →
        c'.defaultExpression = c.defaultExpression →
        ∀ before' after', c'.entries = before' ++ e :: after' → (∀ b ∈ before', b.name ≠ name) →
          (outcome arguments env find?').output = (outcome arguments env find?).output ∧
          (outcome arguments env find?').exitStatus = (outcome arguments env find?).exitStatus ∧
          (outcome arguments env find?').error? = (outcome arguments env find?).error? := by
  refine ⟨output_single_metric_iff hplan hmetric hload,
    output_single_metric_eq_empty hplan hmetric hload, ?_⟩
  rintro before e after hentries rfl hfirst
  have hfind := find?_queries_of_first hentries hfirst (scopeInEffect j c)
  refine ⟨?_, ?_, ?_⟩
  · intro document s hread hexpression hstart hstop query
    have hscope : e.metric.query (some s) = e.metric.query (some (scopeInEffect j c)) :=
      e.metric.query_congr hexpression hstart hstop
    rw [output_single_metric_iff hplan hmetric hload, hfind, queryOfJson_json e.metric hread,
      hscope]
    cases e.metric.query (some (scopeInEffect j c)) <;> simp
  · intro start stop hstart hstop
    exact Scope.ofJson_windowJson hstart hstop _
  · intro find?' c' event' hload' hdefault before' after' hentries' hfirst'
    have hscope : scopeInEffect j c' = scopeInEffect j c := by
      rw [scopeInEffect, scopeInEffect, hdefault]
    have hfind' := find?_queries_of_first hentries' hfirst' (scopeInEffect j c)
    -- both reports are made from what is found under the name
    have hreport : j.renderOne c' e.name = j.renderOne c e.name := by
      rw [renderOne_eq, renderOne_eq, hscope, hfind, hfind']
    rw [outcome_of_load_single hplan hmetric hload, outcome_of_load_single hplan hmetric hload',
      hreport]
    exact ⟨rfl, rfl, rfl⟩

/-- An entry that is printed, though another one fails and a later one has its name. -/
theorem output_of_first_entry :
    ∃ j c event, plan (jobArguments "2010-01-01T12:00:00Z" "2010-01-01T12:00:59.5z" (some "k:v")
        (some "a")) {} = .inr j ∧ j.metric = some "a" ∧
      Catalog.load j.path (some (.ofText threeEntries)) = .ok (c, event) ∧
      (outcome (jobArguments "2010-01-01T12:00:00Z" "2010-01-01T12:00:59.5z" (some "k:v") (some "a")) {}
        fun _ => some (.ofText threeEntries)).output
          = "SELECT *::field FROM m WHERE time >= '2010-01-01T12:00:00Z' AND "
            ++ "time < '2010-01-01T12:00:59.500Z' AND k='v'" ++ "\n" := by
  have hplan : plan (jobArguments "2010-01-01T12:00:00Z" "2010-01-01T12:00:59.5z" (some "k:v")
        (some "a")) {}
      = .inr ⟨defaultPath, some "a", ⟨1262347200, 0, by decide, by decide, by decide⟩,
          ⟨1262347259, 500000000, by decide, by decide, by decide⟩, some "k:v"⟩ :=
    plan_jobArguments rfl rfl (some "k:v") (some "a") rfl
  have hload : Catalog.load defaultPath (some (.ofText threeEntries))
      = .ok (⟨some ":", [⟨"a", .named "m"⟩, ⟨"a", {}⟩,
          ⟨"a", (Metric.named "n").withTags [("t", "x")]⟩]⟩, .loaded 3 defaultPath) :=
    eq_ok_of_toOption (by decide +kernel)
  have hrun := @outcome_single_metric _ _ (fun _ => some (.ofText threeEntries)) _ _ _ _ hplan rfl hload
  exact ⟨_, _, _, hplan, rfl, hload, ((hrun.1 _).2 rfl).1⟩

end Run

end CommandLine

end CanaryMetrics
