import CanaryMetrics.Proofs.CommandLine.Options
import CanaryMetrics.Proofs.Query.Outcome

namespace CanaryMetrics

/-!
# Rendering every metric

Without a metric's name the whole catalog is rendered in one go: queries are collected, those that
could be built are joined to the output and the others are counted.  Here that is compared with what
each entry does by itself.

* `Metric.Fails`, `Metric.exists_query_iff` — which metrics fail where there is a window.
* `Catalog.Entry.contribution`, `output_every_metric` — the output is what the entries contribute, each
  one by itself, in their order.
* `readLines`, `readLines_join` — lines whose parts hold no tab and no line end can be told apart.
* `outcome_every_metric` — all that can be said of a run without a metric's name.
-/

/-! ### Metrics that fail -/

/-- An expression of the form `key:value`: something on both sides of its only colon. -/
def Filter.IsKeyValue (expression : String) : Prop :=
  ∃ key value, expression = key ++ ":" ++ value ∧ key ≠ "" ∧ value ≠ "" ∧
    ':' ∉ key.toList ∧ ':' ∉ value.toList

/-- The expressions of that form are those that are read as a filter. -/
theorem Filter.isSome_ofExpression?_iff (expression : String) :
    (ofExpression? expression).isSome = true ↔ IsKeyValue expression := by
  rw [Option.isSome_iff_exists]
  constructor
  · rintro ⟨f, hf⟩
    obtain ⟨⟨hkey, hkeyColon, hvalue, hvalueColon⟩, rfl⟩ := ofExpression?_eq_some_iff.1 hf
    exact ⟨f.key, f.value, rfl, hkey, hvalue, hkeyColon, hvalueColon⟩
  · rintro ⟨key, value, rfl, hkey, hvalue, hkeyColon, hvalueColon⟩
    exact ⟨⟨key, value⟩,
      ofExpression?_eq_some_iff.2 ⟨⟨hkey, hkeyColon, hvalue, hvalueColon⟩, rfl⟩⟩

instance (expression : String) : Decidable (Filter.IsKeyValue expression) :=
  decidable_of_iff _ (Filter.isSome_ofExpression?_iff expression)

/-- A metric fails with the expression in effect: it names no measurement, or the expression is there
    and not of the form `key:value`. -/
def Metric.Fails (m : Metric) (expression : Option String) : Prop :=
  m.measurement = "" ∨ ∃ e, expression = some e ∧ ¬ Filter.IsKeyValue e

instance (m : Metric) (expression : Option String) : Decidable (m.Fails expression) :=
  inferInstanceAs (Decidable (_ ∨ _))

/-- An expression gives filters unless it is malformed. -/
theorem Scope.exists_filters_iff {s : Scope} :
    (∃ fs, s.filters = .ok fs) ↔ ¬ ∃ e, s.expression = some e ∧ ¬ Filter.IsKeyValue e := by
  cases he : s.expression with
  | none => simp [filters_of_none he]
  | some e =>
    cases hf : Filter.ofExpression? e with
    | none =>
      have hnot : ¬ Filter.IsKeyValue e := by simp [← Filter.isSome_ofExpression?_iff, hf]
      simp [filters_of_malformed he hf, hnot]
    | some f =>
      have hform : Filter.IsKeyValue e := by simp [← Filter.isSome_ofExpression?_iff, hf]
      simp [filters_of_some he hf, hform]

/-- Where there is a window, a metric has a query unless it fails. -/
theorem Metric.exists_query_iff {m : Metric} {s : Scope} {start stop : Instant}
    (hstart : s.start = some start) (hstop : s.stop = some stop) :
    (∃ query, m.query (some s) = .ok query) ↔ ¬ m.Fails s.expression := by
  -- the text of a query is that of its statement, which is where a metric can fail
  have hquery : (∃ query, m.query (some s) = .ok query) ↔ ∃ st, m.statement (some s) = .ok st := by
    unfold query
    cases m.statement (some s) with
    | error e => simp [Functor.map, Except.map]
    | ok st => simp
  rw [hquery, Fails, not_or, ← Scope.exists_filters_iff]
  constructor
  · rintro ⟨st, hst⟩
    obtain ⟨hm, s', -, -, fs, hs, -, -, hfs, -⟩ := statement_eq_ok_iff.1 hst
    cases hs
    exact ⟨hm, fs, hfs⟩
  · rintro ⟨hm, fs, hfs⟩
    exact ⟨_, statement_of_filters hm hstart hstop hfs⟩

/-- So where there is a window, a metric has no query exactly if it fails. -/
theorem Metric.exists_error_iff {m : Metric} {s : Scope} {start stop : Instant}
    (hstart : s.start = some start) (hstop : s.stop = some stop) :
    (∃ error, m.query (some s) = .error error) ↔ m.Fails s.expression := by
  have hiff := exists_query_iff (m := m) hstart hstop
  -- a query is built or it is not, and by `exists_query_iff` the metric's fault decides which
  cases hquery : m.query (some s) with
  | error error =>
    have hfails : m.Fails s.expression := by
      refine Decidable.byContradiction fun hnot => ?_
      obtain ⟨query, hok⟩ := hiff.2 hnot
      rw [hquery] at hok
      cases hok
    exact ⟨fun _ => hfails, fun _ => ⟨error, rfl⟩⟩
  | ok query =>
    have hnot : ¬ m.Fails s.expression := hiff.1 ⟨query, hquery⟩
    constructor
    · rintro ⟨error, herror⟩
      cases herror
    · intro hfails
      exact absurd hfails hnot

/-! ### What each entry contributes -/

namespace Catalog.Entry

variable {e : Entry} {scope : Scope}

/-- What an entry adds to the output by itself: its line, or nothing if it fails. -/
def contribution (e : Entry) (scope : Scope) : String :=
  match e.metric.query (some scope) with
  | .ok query => e.name ++ "\t" ++ query ++ "\n"
  | .error _ => ""

theorem contribution_of_ok {query : String} (h : e.metric.query (some scope) = .ok query) :
    e.contribution scope = e.name ++ "\t" ++ query ++ "\n" := by
  simp only [contribution, h]

theorem contribution_of_error {error : BuildError}
    (h : e.metric.query (some scope) = .error error) : e.contribution scope = "" := by
  simp only [contribution, h]

end Catalog.Entry

namespace CommandLine

open Catalog (Entry)

variable {entries : List Entry} {scope : Scope}

/-- The names and the queries of the entries that do not fail, in their order. -/
def printed (scope : Scope) : List Entry → List (String × String)
  | [] => []
  | e :: entries =>
    match e.metric.query (some scope) with
    | .ok query => (e.name, query) :: printed scope entries
    | .error _ => printed scope entries

theorem printed_cons_of_ok {e : Entry} {query : String}
    (h : e.metric.query (some scope) = .ok query) :
    printed scope (e :: entries) = (e.name, query) :: printed scope entries := by
  simp only [printed, h]

theorem printed_cons_of_error {e : Entry} {error : BuildError}
    (h : e.metric.query (some scope) = .error error) :
    printed scope (e :: entries) = printed scope entries := by
  simp only [printed, h]

/-- The contributions of entries are the lines of those that do not fail. -/
theorem join_contributions (scope : Scope) (entries : List Entry) :
    String.join (entries.map fun e => e.contribution scope)
      = String.join ((printed scope entries).map fun p => p.1 ++ "\t" ++ p.2 ++ "\n") := by
  induction entries with
  | nil => rfl
  | cons e entries ih =>
    cases hquery : e.metric.query (some scope) with
    | error error =>
      rw [printed_cons_of_error hquery, List.map_cons, String.join_cons,
        Entry.contribution_of_error hquery, String.empty_append, ih]
    | ok query =>
      rw [printed_cons_of_ok hquery, List.map_cons, List.map_cons, String.join_cons,
        String.join_cons, Entry.contribution_of_ok hquery, ih]

/-- The lines of a report are those of the entries that do not fail. -/
theorem lines_queries (scope : Scope) (entries : List Entry) :
    Job.lines (entries.map fun e => (e.name, e.metric.query (some scope)))
      = (printed scope entries).map fun p => p.1 ++ "\t" ++ p.2 ++ "\n" := by
  have hok : ∀ name query qs, Job.lines ((name, .ok query) :: qs)
      = (name ++ "\t" ++ query ++ "\n") :: Job.lines qs := fun _ _ _ => rfl
  have herror : ∀ name error qs, Job.lines ((name, .error error) :: qs) = Job.lines qs :=
    fun _ _ _ => rfl
  -- entry by entry: one with a query is printed in its place, one without leaves no line
  induction entries with
  | nil => rfl
  | cons e entries ih =>
    rw [List.map_cons]
    cases hquery : e.metric.query (some scope) with
    | error error => rw [herror, ih, printed_cons_of_error hquery]
    | ok query => rw [hok, ih, printed_cons_of_ok hquery, List.map_cons]

/-- What is printed are the queries of the metrics that do not fail. -/
theorem map_printed {start stop : Instant} (hstart : scope.start = some start)
    (hstop : scope.stop = some stop) (entries : List Entry) :
    ((printed scope entries).map fun p => (p.1, Except.ok p.2))
      = (entries.filter fun e => ¬ e.metric.Fails scope.expression).map
          fun e => (e.name, e.metric.query (some scope)) := by
  induction entries with
  | nil => rfl
  | cons e entries ih =>
    cases hquery : e.metric.query (some scope) with
    | error error =>
      -- the entries without a query are those that the filter drops
      have hfails : e.metric.Fails scope.expression :=
        (Metric.exists_error_iff hstart hstop).1 ⟨error, hquery⟩
      rw [printed_cons_of_error hquery, List.filter_cons_of_neg (by simpa using hfails), ih]
    | ok query =>
      have hfails : ¬ e.metric.Fails scope.expression :=
        (Metric.exists_query_iff hstart hstop).1 ⟨query, hquery⟩
      rw [printed_cons_of_ok hquery, List.filter_cons_of_pos (by simpa using hfails),
        List.map_cons, List.map_cons, ih, hquery]

/-- An entry is printed or fails. -/
theorem length_printed_add_countP {start stop : Instant} (hstart : scope.start = some start)
    (hstop : scope.stop = some stop) (entries : List Entry) :
    (printed scope entries).length + entries.countP (fun e => e.metric.Fails scope.expression)
      = entries.length := by
  have hlength := congrArg List.length (map_printed hstart hstop entries)
  rw [List.length_map, List.length_map, ← List.countP_eq_length_filter] at hlength
  rw [hlength, List.length_eq_countP_add_countP fun e : Entry =>
    decide (e.metric.Fails scope.expression)]
  simp only [decide_eq_true_eq]
  exact Nat.add_comm _ _

/-! ### Lines that can be told apart -/

/-- The lines of a text, each cut at its first tab. -/
def readLines (text : String) : List (String × String) :=
  (text.toList.splitOn '\n').dropLast.map fun line =>
    (String.ofList (line.takeWhile (· ≠ '\t')), String.ofList (line.dropWhile (· ≠ '\t')).tail)

/-- Names without tabs and line ends and queries without line ends can be read off their lines. -/
theorem readLines_join {ps : List (String × String)}
    (h : ∀ p ∈ ps, '\t' ∉ p.1.toList ∧ '\n' ∉ p.1.toList ∧ '\n' ∉ p.2.toList) :
    readLines (String.join (ps.map fun p => p.1 ++ "\t" ++ p.2 ++ "\n")) = ps := by
  unfold readLines
  induction ps with
  | nil => rfl
  | cons p ps ih =>
    obtain ⟨htab, hname, hquery⟩ := h p List.mem_cons_self
    have hchars : (String.join ((p :: ps).map fun p => p.1 ++ "\t" ++ p.2 ++ "\n")).toList
        = (p.1.toList ++ '\t' :: p.2.toList) ++ '\n' ::
          (String.join (ps.map fun p => p.1 ++ "\t" ++ p.2 ++ "\n")).toList := by
      simp
    -- a line reaches up to the first line end, since neither of its parts holds one
    have hline : '\n' ∉ p.1.toList ++ '\t' :: p.2.toList := by
      simp [hname, hquery]
    -- the name is all there is before the first tab
    have hpos : ∀ c ∈ p.1.toList, decide (c ≠ '\t') = true :=
      fun c hc => decide_eq_true fun heq => htab (heq ▸ hc)
    rw [hchars, List.splitOn_append_cons_self_of_not_mem hline,
      List.dropLast_cons_of_ne_nil (List.splitOn_ne_nil _ _), List.map_cons,
      ih fun q hq => h q (List.mem_cons_of_mem _ hq), List.takeWhile_append_of_pos hpos,
      List.dropWhile_append_of_pos hpos]
    simp

/-! ### The run -/

/-- The expression in effect: the one that is given, even if it is empty, or else the catalog's. -/
def inEffect (given default : Option String) : Option String :=
  match given with
  | some expression => some expression
  | none => default

/-- The window of a job with the expression in effect. -/
def scopeInEffect (j : Job) (c : Catalog) : Scope :=
  { start := some j.start, stop := some j.stop,
    expression := inEffect j.expression c.defaultExpression }

/-- That is the scope of the job. -/
theorem scope_eq_scopeInEffect (j : Job) (c : Catalog) : j.scope c = scopeInEffect j c := by
  unfold Job.scope scopeInEffect
  cases j.expression <;> rfl

/-- The number of metrics that fail with the expression in effect. -/
def failing (expression : Option String) (entries : List Entry) : Nat :=
  entries.countP fun e => e.metric.Fails expression

/-- The failures that are counted are the metrics that fail. -/
theorem failures_queries (j : Job) (c : Catalog) :
    Job.failures (c.queries (scopeInEffect j c))
      = failing (inEffect j.expression c.defaultExpression) c.entries := by
  -- both counts complete the lines to all entries
  have hlines := Job.length_lines_add_failures (c.queries (scopeInEffect j c))
  have hprinted : (printed (scopeInEffect j c) c.entries).length
      + failing (inEffect j.expression c.defaultExpression) c.entries = c.entries.length :=
    length_printed_add_countP rfl rfl c.entries
  rw [Catalog.queries, lines_queries, List.length_map, List.length_map] at hlines
  exact Nat.add_left_cancel (hlines.trans hprinted.symm)

/-- No metric fails when none is counted. -/
theorem failing_eq_zero_iff {expression : Option String} :
    failing expression entries = 0 ↔ ∀ e ∈ entries, ¬ e.metric.Fails expression := by
  simp only [failing, List.countP_eq_zero, decide_eq_true_eq]

section Run

variable {arguments : List String} {env : Environment} {find? : String → Option FileNode} {j : Job}
  {c : Catalog} {event : Event}

/-- The run comes to a report on all entries. -/
theorem outcome_of_load_every (hplan : plan arguments env = .inr j) (hmetric : j.metric = none)
    (hload : Catalog.load j.path (find? j.path) = .ok (c, event)) :
    outcome arguments env find? = .done { j.renderAll c with log := [event] } := by
  rw [outcome_of_load hplan hload, Job.render, hmetric]

/-- Its output is what the entries contribute. -/
theorem output_every_metric (hplan : plan arguments env = .inr j) (hmetric : j.metric = none)
    (hload : Catalog.load j.path (find? j.path) = .ok (c, event)) :
    (outcome arguments env find?).output
      = String.join (c.entries.map fun e => e.contribution (scopeInEffect j c)) := by
  rw [outcome_of_load_every hplan hmetric hload, join_contributions, ← lines_queries,
    ← scope_eq_scopeInEffect]
  rfl

/-- Its exit status tells whether metrics fail. -/
theorem exitStatus_every_metric (hplan : plan arguments env = .inr j) (hmetric : j.metric = none)
    (hload : Catalog.load j.path (find? j.path) = .ok (c, event)) :
    (outcome arguments env find?).exitStatus
      = if failing (inEffect j.expression c.defaultExpression) c.entries = 0 then 0 else 1 := by
  rw [outcome_of_load_every hplan hmetric hload, ← failures_queries, ← scope_eq_scopeInEffect]
  show (if (if _ then none else _ : Option JobError).isSome = true then 1 else 0) = _
  split <;> rfl

/-- Its error tells how many metrics fail. -/
theorem error_every_metric (hplan : plan arguments env = .inr j) (hmetric : j.metric = none)
    (hload : Catalog.load j.path (find? j.path) = .ok (c, event)) :
    (outcome arguments env find?).error?
      = if failing (inEffect j.expression c.defaultExpression) c.entries = 0 then none
        else some ("Error: "
          ++ (toString (failing (inEffect j.expression c.defaultExpression) c.entries)
            ++ " metric queries could not be built")) := by
  rw [outcome_of_load_every hplan hmetric hload, ← failures_queries, ← scope_eq_scopeInEffect]
  show Option.map _ (if _ then none else _ : Option JobError) = _
  split <;> rfl

/-- **A run without a metric's name.**  Whatever the arguments are, once they are accepted and the
    catalog is loaded or absent:

    * a metric fails exactly if it names no measurement or the expression in effect is malformed;
    * a line is printed for every other metric, in catalog order, with the query that the metric has
      by itself, and lines whose parts hold no tab and no line end can be read back;
    * the exit status is 0 exactly if no metric fails, and otherwise the failures are counted, so that
      lines and failures make up the metrics;
    * entries contribute to the output each by itself, so other entries in the place of some change
      nothing about the rest. -/
theorem outcome_every_metric (hplan : plan arguments env = .inr j) (hmetric : j.metric = none)
    (hload : Catalog.load j.path (find? j.path) = .ok (c, event)) :
    (∀ e ∈ c.entries, (∃ error, e.metric.query (some (scopeInEffect j c)) = .error error) ↔
      e.metric.Fails (inEffect j.expression c.defaultExpression)) ∧
    (∃ lines : List (String × String),
      lines.map (fun p => (p.1, Except.ok p.2))
        = (c.entries.filter fun e =>
            ¬ e.metric.Fails (inEffect j.expression c.defaultExpression)).map
              (fun e => (e.name, e.metric.query (some (scopeInEffect j c)))) ∧
      (outcome arguments env find?).output
        = String.join (lines.map fun p => p.1 ++ "\t" ++ p.2 ++ "\n") ∧
      lines.length + failing (inEffect j.expression c.defaultExpression) c.entries
        = c.entries.length ∧
      ((∀ p ∈ lines, '\t' ∉ p.1.toList ∧ '\n' ∉ p.1.toList ∧ '\n' ∉ p.2.toList) →
        readLines (outcome arguments env find?).output = lines)) ∧
    ((outcome arguments env find?).exitStatus = 0 ↔
      ∀ e ∈ c.entries, ¬ e.metric.Fails (inEffect j.expression c.defaultExpression)) ∧
    (outcome arguments env find?).error?
      = (if failing (inEffect j.expression c.defaultExpression) c.entries = 0 then none
        else some ("Error: "
          ++ (toString (failing (inEffect j.expression c.defaultExpression) c.entries)
            ++ " metric queries could not be built"))) ∧
    ∀ find?' c' event', Catalog.load j.path (find?' j.path) = .ok (c', event') →
      c'.defaultExpression = c.defaultExpression →
      ∀ before middle middle' after, c.entries = before ++ middle ++ after →
        c'.entries = before ++ middle' ++ after →
        ∃ first last, (outcome arguments env find?).output
            = first ++ String.join (middle.map fun e => e.contribution (scopeInEffect j c)) ++ last ∧
          (outcome arguments env find?').output
            = first ++ String.join (middle'.map fun e => e.contribution (scopeInEffect j c))
              ++ last := by
  have houtput := output_every_metric hplan hmetric hload
  have hlines := houtput.trans (join_contributions (scopeInEffect j c) c.entries)
  refine ⟨fun e _ => Metric.exists_error_iff rfl rfl, ⟨printed (scopeInEffect j c) c.entries,
    map_printed rfl rfl c.entries, hlines, length_printed_add_countP rfl rfl c.entries, ?_⟩, ?_,
    error_every_metric hplan hmetric hload, ?_⟩
  · intro hreadable
    rw [hlines, readLines_join hreadable]
  · rw [exitStatus_every_metric hplan hmetric hload, ← failing_eq_zero_iff]
    split <;> simp_all
  · -- the default is the same, so the other entries contribute in the same scope
    intro find?' c' event' hload' hdefault before middle middle' after hentries hentries'
    have houtput' := output_every_metric hplan hmetric hload'
    have hscope : scopeInEffect j c' = scopeInEffect j c := by
      rw [scopeInEffect, scopeInEffect, hdefault]
    rw [hentries, List.map_append, List.map_append, String.join_append, String.join_append]
      at houtput
    rw [hentries', hscope, List.map_append, List.map_append, String.join_append,
      String.join_append] at houtput'
    exact ⟨_, _, houtput, houtput'⟩

/-- Three entries under one name, the second of them without a measurement, and a malformed
    expression. -/
def threeEntries : String :=
  "defaults.scope = ':'\nmetrics = [\x7bname = 'a', metricName = 'm'\x7d, "
    ++ "\x7bname = 'a', metric_name = ''\x7d, \x7bname = 'a', metricName = 'n', tags.t = 'x'\x7d]"

/-- Where another expression is given, only the entry without a measurement fails. -/
theorem error_of_threeEntries :
    ∃ j c event, plan (jobArguments "2010-01-01T12:00:00Z" "2010-01-01T12:00:59.5z" (some "k:v") none) {}
        = .inr j ∧ j.metric = none ∧
      Catalog.load j.path (some (.ofText threeEntries)) = .ok (c, event) ∧
      (c.entries.map fun e => decide (e.metric.Fails (inEffect j.expression c.defaultExpression)))
        = [false, true, false] ∧
      (outcome (jobArguments "2010-01-01T12:00:00Z" "2010-01-01T12:00:59.5z" (some "k:v") none) {}
        fun _ => some (.ofText threeEntries)).error?
          = some "Error: 1 metric queries could not be built" := by
  have hplan : plan (jobArguments "2010-01-01T12:00:00Z" "2010-01-01T12:00:59.5z" (some "k:v") none) {}
      = .inr ⟨defaultPath, none, ⟨1262347200, 0, by decide, by decide, by decide⟩,
          ⟨1262347259, 500000000, by decide, by decide, by decide⟩, some "k:v"⟩ :=
    plan_jobArguments rfl rfl (some "k:v") none rfl
  have hload : Catalog.load defaultPath (some (.ofText threeEntries))
      = .ok (⟨some ":", [⟨"a", .named "m"⟩, ⟨"a", {}⟩,
          ⟨"a", (Metric.named "n").withTags [("t", "x")]⟩]⟩, .loaded 3 defaultPath) :=
    eq_ok_of_toOption (by decide +kernel)
  have hrun := @outcome_every_metric _ _ (fun _ => some (.ofText threeEntries)) _ _ _ hplan rfl hload
  exact ⟨_, _, _, hplan, rfl, hload, by decide +kernel, hrun.2.2.2.1.trans (by decide +kernel)⟩

end Run

end CommandLine

end CanaryMetrics
