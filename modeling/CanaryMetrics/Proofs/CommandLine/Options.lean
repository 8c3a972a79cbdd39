import CanaryMetrics.CommandLine.Command
import CanaryMetrics.Proofs.Except

namespace CanaryMetrics.CommandLine

/-!
# Options and the jobs they describe

A setting that is given as one argument `--name=value` is taken whatever the value looks like.

* `plan_jobArguments` — options for a window and, where there are any, for an expression and a
  metric's name are a job with these settings.
* `outcome_of_load` — a job whose catalog is loaded comes to what is rendered for that catalog.
-/

/-! ### Single options -/

/-- A setting and its value as one argument. -/
def option (s : Setting) (value : String) : String :=
  "--" ++ s.name ++ "=" ++ value

/-- After the dashes the value begins at the first equals sign, since no name holds one. -/
theorem Word.ofLong_option (s : Setting) (value : List Char) :
    Word.ofLong (s.name.toList ++ '=' :: value) = .setting s (some (String.ofList value)) := by
  have hname : ∀ c ∈ s.name.toList, decide (c ≠ '=') = true :=
    List.all_eq_true.1 (by cases s <;> decide)
  -- names of options hold no `=`, so that the first one ends the name
  have htake : (s.name.toList ++ '=' :: value).takeWhile (· ≠ '=') = s.name.toList := by
    rw [List.takeWhile_append_of_pos hname]
    simp
  have hdrop : (s.name.toList ++ '=' :: value).dropWhile (· ≠ '=') = '=' :: value := by
    rw [List.dropWhile_append_of_pos hname]
    simp
  simp only [Word.ofLong, htake, hdrop, String.ofList_toList, Setting.ofName?_name]
  rfl

/-- An option is a setting with its value. -/
theorem Word.ofArgument_option (s : Setting) (value : String) :
    Word.ofArgument (option s value) = .setting s (some value) := by
  have hchars : (option s value).toList = '-' :: '-' :: (s.name.toList ++ '=' :: value.toList) := by
    simp [option]
  -- a name comes after the dashes, so they are not the sign that ends the settings
  have hne : s.name.toList ++ '=' :: value.toList ≠ [] := by simp
  rw [Word.ofArgument, hchars, Word.ofChars, Word.ofLong_option, String.ofList_toList]
  exact hne

/-- The first option is put among the settings, and then the other arguments are read. -/
theorem readFrom_option {o o' : Settings} {s : Setting} {value : String}
    (h : o.set s value = .ok o') (rest : List String) :
    o.readFrom (option s value :: rest) = o'.readFrom rest := by
  rw [Settings.readFrom.eq_def]
  simp only [Word.ofArgument_option, h]

/-! ### The job of a window -/

/-- The arguments for a window and, where they are there, for an expression and a metric's name. -/
def jobArguments (start stop : String) (expression metric : Option String) : List String :=
  option .start start :: option .stop stop ::
    ((expression.map (option .scope)).toList ++ (metric.map (option .metric)).toList)

variable {start stop : String} {t u : Instant}

/-- The settings of a window are taken together with an expression and a name. -/
theorem read_jobArguments (hstart : Instant.ofText start = .ok t) (hstop : Instant.ofText stop = .ok u)
    (expression metric : Option String) :
    Settings.read (jobArguments start stop expression metric)
      = .ok (.job { metric, start := some t, stop := some u, scope := expression }) := by
  have hfirst : Settings.set {} .start start = .ok { start := some t } := by
    simp [Settings.set, Settings.readOnce, Settings.readInstant, hstart]
  have hsecond : Settings.set { start := some t } .stop stop
      = .ok { start := some t, stop := some u } := by
    simp [Settings.set, Settings.readOnce, Settings.readInstant, hstop]
  rw [Settings.read, jobArguments, readFrom_option hfirst, readFrom_option hsecond]
  -- an option that is not there is no argument
  cases expression <;> cases metric
  · rfl
  · exact readFrom_option rfl _
  · exact readFrom_option rfl _
  · exact (readFrom_option rfl _).trans (readFrom_option rfl _)

/-- **Options describe their job.**  The values may be any texts, those of the window texts of
    instants. -/
theorem plan_jobArguments (hstart : Instant.ofText start = .ok t)
    (hstop : Instant.ofText stop = .ok u) (expression metric : Option String) {env : Environment}
    {path : String} (hpath : Settings.path {} env = .ok path) :
    plan (jobArguments start stop expression metric) env
      = .inr { path, metric, start := t, stop := u, expression } := by
  have hjob : Settings.job { metric, start := some t, stop := some u, scope := expression } env
      = .ok { path, metric, start := t, stop := u, expression } := by
    have hpath' : Settings.path { metric, start := some t, stop := some u, scope := expression } env
        = .ok path := hpath
    rw [Settings.job, hpath', ok_bind]
    rfl
  simp only [plan, read_jobArguments hstart hstop, hjob]

/-! ### The outcome of a job -/

/-- A job whose catalog is loaded comes to what is rendered for that catalog. -/
theorem outcome_of_load {arguments : List String} {env : Environment}
    {find? : String → Option FileNode} {j : Job} {c : Catalog} {event : Event}
    (hplan : plan arguments env = .inr j)
    (hload : Catalog.load j.path (find? j.path) = .ok (c, event)) :
    outcome arguments env find? = .done { j.render c with log := [event] } := by
  simp only [outcome, hplan, Job.report, hload]

end CanaryMetrics.CommandLine
