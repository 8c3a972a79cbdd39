import CanaryMetrics.Proofs.CommandLine.SingleMetric
import CanaryMetrics.Proofs.Environment.Loaded

namespace CanaryMetrics

open Environment (Assignment IsName)

/-!
# Runs in a directory

The command puts the assignments of its environment file into the environment, reads its arguments, and
looks for the catalog.  Here a run is followed from what is typed and what stands in the directory.

* `Catalog.StandsFor`, `Catalog.exists_load_eq_ok_iff` — what stands at a path where a catalog is loaded.
* `path_of_load` — where the catalog is looked for when no argument says so.
* `run_of_load` — a run is what its arguments come to once the environment file has been read.
* `Finds` — what a run finds in its environment and its directory.
* `run_every_metric`, `run_single_metric` — so what a run for a window comes to, with the texts of its
  ends, an expression and a metric's name as they are typed.
-/

/-! ### The catalog at a path -/

namespace Catalog

/-- What stands at a path is a catalog: there is nothing, or a file with the catalog's text. -/
inductive StandsFor : Option FileNode → Catalog → Prop
  /-- Without a file the catalog is empty. -/
  | absent : StandsFor none {}
  /-- A file with a text. -/
  | text {text : String} {c : Catalog} (h : ofToml text = .ok c) : StandsFor (some (.ofText text)) c

/-- The bytes that are read as a text are those of the text. -/
theorem file_eq_ofText {content : List UInt8} {text : String}
    (h : String.fromUTF8? content.toByteArray = some text) : FileNode.file content = .ofText text := by
  unfold String.fromUTF8? at h
  split at h
  · cases h
    exact congrArg FileNode.file List.toList_data_toByteArray.symm
  · cases h

/-- A catalog is loaded exactly if what stands at the path is one. -/
theorem exists_load_eq_ok_iff {path : String} {node : Option FileNode} {c : Catalog} :
    (∃ event, load path node = .ok (c, event)) ↔ StandsFor node c := by
  constructor
  · rintro ⟨event, h⟩
    -- nothing at the path leaves the catalog empty, while a directory cannot be read
    match node with
    | none =>
      cases h
      exact .absent
    | some .directory => cases h
    | some (.file content) =>
      obtain ⟨c', hcontent, hc⟩ := bind_eq_ok_iff.1 h
      cases hc
      unfold ofContent at hcontent
      split at hcontent
      · cases hcontent
      · rename_i text htext
        rw [file_eq_ofText htext]
        exact .text (mapError_eq_ok_iff.1 hcontent)
  · intro h
    cases h with
    | absent => exact ⟨_, rfl⟩
    | @text text c h =>
      refine ⟨.loaded c.entries.length path, ?_⟩
      rw [FileNode.ofText, load, ofContent_bytes, h]
      rfl

end Catalog

namespace CommandLine

/-! ### The environment file -/

/-- The assignments of an environment file are to names. -/
theorem isName_of_mem_assignmentsOf (node : Option FileNode) : ∀ a ∈ assignmentsOf node, IsName a.name := by
  match node with
  | none => exact fun a ha => absurd ha List.not_mem_nil
  | some .directory => exact fun a ha => absurd ha List.not_mem_nil
  | some (.file content) => exact Environment.isName_of_mem_assignments

/-- A path that the environment gives must not be empty. -/
def checkedPath (path : String) : Except UsageError String :=
  if path = "" then .error .emptyPath else .ok path

theorem path_of_get? {env : Environment} {path : String} (h : env.get? pathVariable = some path) :
    Settings.path {} env = checkedPath path := by
  simp only [Settings.path, h]
  rfl

/-- **Where the catalog is looked for.**  When no argument says so, then where the variable says that the
    environment has, else where the first assignment to that variable in the environment file says, and
    otherwise at the default path. -/
theorem path_of_load {env env' : Environment} {node : Option FileNode}
    (h : env.load? (assignmentsOf node) = some env') :
    (∀ path, env.get? pathVariable = some path → Settings.path {} env' = checkedPath path) ∧
      (env.get? pathVariable = none →
        (∀ before a after, assignmentsOf node = before ++ a :: after → a.name = pathVariable →
          (∀ b ∈ before, b.name ≠ pathVariable) →
          ∃ env₁, env.load? before = some env₁ ∧
            Settings.path {} env' = checkedPath (a.value.expand env₁)) ∧
        ((∀ a ∈ assignmentsOf node, a.name ≠ pathVariable) →
          Settings.path {} env' = .ok defaultPath)) := by
  have hnames := isName_of_mem_assignmentsOf node
  refine ⟨fun path hpath => path_of_get? (Environment.get?_of_load? h hpath), fun hnone => ⟨?_, ?_⟩⟩
  · -- the first assignment of the variable counts, under the variables that were set before it
    intro before a after hassignments ha hfirst
    rw [hassignments] at h hnames
    rw [← ha] at hnone hfirst
    obtain ⟨env₁, hload, hvalue⟩ := Environment.get?_of_load?_of_first h hnames hfirst hnone
    exact ⟨env₁, hload, path_of_get? (ha ▸ hvalue)⟩
  · -- no assignment of the file touches the variable, so it stays unset
    intro hne
    have hvalue : env'.get? pathVariable = none :=
      (Environment.get?_of_load?_of_ne h hnames (by decide) hne).trans hnone
    simp only [Settings.path, hvalue]

/-! ### The run -/

/-- A run is what its arguments come to once the environment file has been read. -/
theorem run_of_load {arguments : List String} {env env' : Environment} {files : FileTree}
    (h : env.load? (assignmentsOf (files.find? environmentPath)) = some env') :
    run arguments env files = outcome arguments env' files.find? := by
  simp only [run, h]

/-- What a run without a path among its arguments finds: an environment into which the environment file has
    been read, and a catalog at the path that this gives. -/
structure Finds (env : Environment) (files : FileTree) (path : String) (c : Catalog) : Prop where
  /-- The environment gives the path. -/
  environment : ∃ env', env.load? (assignmentsOf (files.find? environmentPath)) = some env' ∧
    Settings.path {} env' = .ok path
  /-- The catalog stands there. -/
  catalog : Catalog.StandsFor (files.find? path) c

/-- The scope of a window with the expression in effect. -/
def windowScope (start stop : Instant) (expression : Option String) (c : Catalog) : Scope :=
  { start := some start, stop := some stop, expression := inEffect expression c.defaultExpression }

section

variable {start stop : String} {t u : Instant} {env : Environment}
  {files : FileTree} {path : String} {c : Catalog}

/-- Such a run is the outcome of the job that the options describe. -/
theorem Finds.exists_plan (h : Finds env files path c) (hstart : Instant.ofText start = .ok t)
    (hstop : Instant.ofText stop = .ok u) (expression metric : Option String) :
    ∃ env' event, plan (jobArguments start stop expression metric) env'
        = .inr { path, metric, start := t, stop := u, expression } ∧
      Catalog.load path (files.find? path) = .ok (c, event) ∧
      run (jobArguments start stop expression metric) env files
        = outcome (jobArguments start stop expression metric) env' files.find? := by
  obtain ⟨env', hload, hpath⟩ := h.environment
  obtain ⟨event, hcatalog⟩ := Catalog.exists_load_eq_ok_iff.2 h.catalog
  exact ⟨env', event, plan_jobArguments hstart hstop expression metric hpath, hcatalog, run_of_load hload⟩

/-- **A run for every metric.**  With the texts of a window's ends and perhaps an expression as options, the
    output is what the entries of the catalog contribute for this window, and the failures are counted. -/
theorem run_every_metric (h : Finds env files path c) (hstart : Instant.ofText start = .ok t)
    (hstop : Instant.ofText stop = .ok u) (expression : Option String) :
    (run (jobArguments start stop expression none) env files).output
        = String.join (c.entries.map fun e => e.contribution (windowScope t u expression c)) ∧
      (run (jobArguments start stop expression none) env files).exitStatus
        = (if failing (inEffect expression c.defaultExpression) c.entries = 0 then 0 else 1) ∧
      (run (jobArguments start stop expression none) env files).error?
        = if failing (inEffect expression c.defaultExpression) c.entries = 0 then none
          else some ("Error: " ++ (toString (failing (inEffect expression c.defaultExpression) c.entries)
            ++ " metric queries could not be built")) := by
  obtain ⟨env', event, hplan, hload, hrun⟩ := h.exists_plan hstart hstop expression none
  rw [hrun]
  exact ⟨output_every_metric hplan rfl hload, exitStatus_every_metric hplan rfl hload,
    error_every_metric hplan rfl hload⟩

/-- **A run for a single metric.**  With a metric's name as another option, the query of the first entry of
    that name is the output, or there is none and the run fails. -/
theorem run_single_metric (h : Finds env files path c) (hstart : Instant.ofText start = .ok t)
    (hstop : Instant.ofText stop = .ok u) (expression : Option String) (name : String) :
    (∀ query, ((run (jobArguments start stop expression (some name)) env files).output = query ++ "\n" ∧
        (run (jobArguments start stop expression (some name)) env files).exitStatus = 0) ↔
      (c.queries (windowScope t u expression c)).find? (fun q => q.1 = name) = some (name, .ok query)) ∧
    ((∀ query, (c.queries (windowScope t u expression c)).find? (fun q => q.1 = name)
        ≠ some (name, .ok query)) →
      (run (jobArguments start stop expression (some name)) env files).output = "" ∧
        (run (jobArguments start stop expression (some name)) env files).exitStatus ≠ 0) ∧
    (name ∉ c.names → (run (jobArguments start stop expression (some name)) env files).error?
      = some ("Error: " ++ ("metric " ++ name ++ " not found in " ++ path))) := by
  obtain ⟨env', event, hplan, hload, hrun⟩ := h.exists_plan hstart hstop expression (some name)
  rw [hrun]
  refine ⟨output_single_metric_iff hplan rfl hload, output_single_metric_eq_empty hplan rfl hload,
    fun hname => ?_⟩
  -- no entry has the name, so that there is nothing to render
  have hnone : c.metric? name = none := by
    rw [← Option.not_isSome_iff_eq_none, Catalog.metric?_isSome_iff]
    exact hname
  rw [outcome_of_load_single hplan rfl hload, Job.renderOne, hnone]
  rfl

end

/-! ### Unit test: the environment file gives the path, in its first assignment -/

example :
    let files := FileTree.ofList
      [(".env", .ofText "D=c\nINFLUX_QUERY_CONFIG=$D/x # \nINFLUX_QUERY_CONFIG=y"),
        ("c/x", .ofText "[[metrics]]\nname = 'a'\nmetric_name = 'm'")]
    let arguments := jobArguments "2010-01-01T12:00:00Z" "2010-01-01T12:00:01Z" (some "k:v") (some "a")
    let outcome := run arguments {} files
    outcome.output = "SELECT *::field FROM m WHERE time >= '2010-01-01T12:00:00Z' AND "
        ++ "time < '2010-01-01T12:00:01Z' AND k='v'\n"
      ∧ outcome.exitStatus = 0 := by
  decide +kernel

end CommandLine

end CanaryMetrics
