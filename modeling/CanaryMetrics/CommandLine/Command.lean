import CanaryMetrics.CommandLine.Report
import CanaryMetrics.Environment.File

namespace CanaryMetrics.CommandLine

/-!
# The command

* `Outcome` — what the command comes to: a usage error, the version, help, the report on a job, or none
  of these where no environment could be set up for it.
* `outcome` — what the command comes to with given arguments, in a given environment, where `find?` says
  what stands at a path.
* `run` — the same in a directory whose environment file is read first.
-/

/-- What the command comes to. -/
inductive Outcome
  /-- The arguments or the environment are at fault. -/
  | misused (e : UsageError)
  /-- The version is shown. -/
  | version
  /-- Help is shown, with the path of the catalog that the environment holds. -/
  | help (path : String)
  /-- A job is done. -/
  | done (r : Report)
  /-- Nothing is done, because the environment cannot be set up. -/
  | stopped
deriving DecidableEq, Repr

/-- The version of the command, as a line of text. -/
def versionText : String :=
  "influx-query 0.1.0\n"

/-- How the command is used; the environment holds a path of the catalog. -/
def helpText (path : String) : String :=
  "Render InfluxQL queries for the canary metrics in a catalog file\n\n"
    ++ "Usage: influx-query [OPTIONS] --start <START> --end <END>\n\n"
    ++ "Options:\n"
    ++ "      --config <CONFIG>  Metric catalog (TOML) [env: " ++ pathVariable ++ "=" ++ path
    ++ "] [default: " ++ defaultPath ++ "]\n"
    ++ "      --metric <METRIC>  Render only this metric; every metric is rendered when omitted\n"
    ++ "      --start <START>    Window start (RFC 3339, inclusive)\n"
    ++ "      --end <END>        Window end (RFC 3339, exclusive)\n"
    ++ "      --scope <SCOPE>    Scope filter as name:value; defaults to the catalog's scope\n"
    ++ "  -h, --help             Print help\n"
    ++ "  -V, --version          Print version\n"

namespace Outcome

/-- What is written to the output. -/
def output : Outcome → String
  | misused _ => ""
  | version => versionText
  | help path => helpText path
  | done r => r.output
  | stopped => ""

/-- What is logged. -/
def log : Outcome → List Event
  | done r => r.log
  | _ => []

/-- The final error, if there is one. -/
def error? : Outcome → Option String
  | misused e => some ("error: " ++ e.message)
  | done r => r.error.map fun e => "Error: " ++ e.message
  | _ => none

/-- The exit status. -/
def exitStatus : Outcome → Nat
  | misused _ => 2
  | stopped => 101
  | done r => r.exitStatus
  | _ => 0

end Outcome

/-- What arguments ask for in an environment: an outcome at once, or a job. -/
def plan (arguments : List String) (env : Environment) : Outcome ⊕ Job :=
  match Settings.read arguments with
  | .error e => .inl (.misused e)
  | .ok .version => .inl .version
  | .ok .help => .inl (.help ((env.get? pathVariable).getD ""))
  | .ok (.job o) =>
    match o.job env with
    | .error e => .inl (.misused e)
    | .ok j => .inr j

/-- What the command comes to, where `find?` says what stands at a path. -/
def outcome (arguments : List String) (env : Environment) (find? : String → Option FileNode) : Outcome :=
  match plan arguments env with
  | .inl o => o
  | .inr j => .done (j.report (find? j.path))

/-- The file with settings for the environment. -/
def environmentPath : String := ".env"

/-- The directory of these names and those above it, nearest first; the names stand in reverse order. -/
def directoriesUp : List String → List String
  | [] => ["/"]
  | name :: names => ("/".intercalate ("" :: (name :: names).reverse) ++ "/") :: directoriesUp names

/-- The paths at which the file with settings is looked for: in an absolute directory, then in each
    directory above it. -/
def environmentPaths (directory : String) : List String :=
  let names := (FileTree.segments directory).filter (· ≠ "")
  (directoriesUp names.reverse).map fun d => d ++ environmentPath

/-- The assignments of an environment file; there are none where no file stands. -/
def assignmentsOf : Option FileNode → List Environment.Assignment
  | some (.file content) => Environment.assignments content
  | _ => []

/-- What the command comes to in a directory and an environment. -/
def run (arguments : List String) (env : Environment) (files : FileTree) : Outcome :=
  match env.load? (assignmentsOf (files.find? environmentPath)) with
  | some env => outcome arguments env files.find?
  | none => .stopped

/-! ### Unit test: where the environment file is looked for -/

example : environmentPaths "/a/b" = ["/a/b/.env", "/a/.env", "/.env"] := by decide +kernel

end CanaryMetrics.CommandLine
