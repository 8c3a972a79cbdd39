import CanaryMetrics.Environment.Basic
import CanaryMetrics.Instant.Reader

namespace CanaryMetrics.CommandLine

/-!
# Arguments

The command takes five settings, each once at most, as two arguments `--name value` or as one argument
`--name=value`.

* `Settings.read` — what a list of arguments asks for, or the first mistake in it.
* `Settings.job` — the job that settings describe, once the catalog's path is settled.
* `UsageError` — the mistakes.
-/

/-! ### Settings -/

/-- The settings that the command takes. -/
inductive Setting
  /-- The path of the catalog. -/
  | config
  /-- The name of the only metric to render. -/
  | metric
  /-- The start of the window. -/
  | start
  /-- The end of the window. -/
  | stop
  /-- The scope expression. -/
  | scope
deriving DecidableEq, Repr

/-- The name of a setting. -/
def Setting.name : Setting → String
  | config => "config"
  | metric => "metric"
  | start => "start"
  | stop => "end"
  | scope => "scope"

/-- The setting of a name, which must be given in full. -/
def Setting.ofName? (name : String) : Option Setting :=
  [config, metric, start, stop, scope].find? fun s => s.name = name

/-- A setting is found by its name. -/
@[simp]
theorem Setting.ofName?_name (s : Setting) : ofName? s.name = some s := by
  cases s <;> decide

/-- Why a command line cannot be followed. -/
inductive UsageError
  /-- An argument has no meaning. -/
  | unexpected (argument : String)
  /-- A setting has no value. -/
  | missingValue (s : Setting)
  /-- A setting comes twice. -/
  | repeated (s : Setting)
  /-- The path of the catalog is empty. -/
  | emptyPath
  /-- A time is not the text of an instant. -/
  | notAnInstant (s : Setting) (value : String) (e : Instant.ReadError)
  /-- A mandatory setting is missing. -/
  | missingSetting (s : Setting)
deriving DecidableEq, Repr

/-- The wording of a mistake. -/
def UsageError.message : UsageError → String
  | unexpected argument => "unexpected argument '" ++ argument ++ "' found"
  | missingValue s => "a value is required for '--" ++ s.name ++ "' but none was supplied"
  | repeated s => "the argument '--" ++ s.name ++ "' cannot be used multiple times"
  | emptyPath => "the path of the catalog is empty"
  | notAnInstant s value e =>
    "invalid value '" ++ value ++ "' for '--" ++ s.name ++ "': " ++ e.message
  | missingSetting s => "the argument '--" ++ s.name ++ "' was not provided"

/-- The settings given so far. -/
structure Settings where
  /-- The path of the catalog. -/
  config : Option String := none
  /-- The name of the only metric to render. -/
  metric : Option String := none
  /-- The start of the window. -/
  start : Option Instant := none
  /-- The end of the window. -/
  stop : Option Instant := none
  /-- The scope expression. -/
  scope : Option String := none
deriving DecidableEq, Repr, Inhabited

/-! ### Single arguments -/

/-- What one argument is. -/
inductive Word
  /-- A setting, with its value if that is part of the argument. -/
  | setting (s : Setting) (value : Option String)
  /-- A wish for the version. -/
  | version
  /-- A wish for help. -/
  | help
  /-- The sign that no settings follow. -/
  | terminator
  /-- Anything else. -/
  | other
deriving DecidableEq, Repr

namespace Word

/-- What an argument is that begins with two dashes, from what follows them. -/
def ofLong (cs : List Char) : Word :=
  let name := String.ofList (cs.takeWhile (· ≠ '='))
  let value := (cs.dropWhile (· ≠ '=')).tail?.map String.ofList
  match Setting.ofName? name with
  | some s => .setting s value
  | none =>
    if value = none ∧ name = "version" then .version
    else if value = none ∧ name = "help" then .help
    else .other

/-- What an argument is.  After one dash, the first letter counts. -/
def ofChars : List Char → Word
  | ['-', '-'] => .terminator
  | '-' :: '-' :: cs => ofLong cs
  | '-' :: 'V' :: _ => .version
  | '-' :: 'h' :: _ => .help
  | _ => .other

/-- What an argument is. -/
def ofArgument (argument : String) : Word :=
  ofChars argument.toList

end Word

/-- Tells whether an argument can be the value of the argument before it: it begins with no dash, or is
    nothing but a dash. -/
def isValue (argument : String) : Bool :=
  argument = "-" || argument.toList.head? ≠ some '-'

/-! ### All arguments -/

namespace Settings

/-- Reads an instant. -/
def readInstant (s : Setting) (value : String) : Except UsageError Instant :=
  (Instant.ofText value).mapError (.notAnInstant s value)

/-- Puts a value into its slot, unless the slot is taken already. -/
def readOnce (s : Setting) (slot : Option α) (value : Except UsageError α) :
    Except UsageError (Option α) :=
  match slot with
  | some _ => .error (.repeated s)
  | none => some <$> value

/-- The settings with one more. -/
def set (o : Settings) (s : Setting) (value : String) : Except UsageError Settings :=
  match s with
  | .config => do
    let path : Except UsageError String := if value = "" then .error .emptyPath else .ok value
    pure { o with config := ← readOnce s o.config path }
  | .metric => do pure { o with metric := ← readOnce s o.metric (.ok value) }
  | .start => do pure { o with start := ← readOnce s o.start (readInstant s value) }
  | .stop => do pure { o with stop := ← readOnce s o.stop (readInstant s value) }
  | .scope => do pure { o with scope := ← readOnce s o.scope (.ok value) }

/-- What a list of arguments asks for. -/
inductive Wish
  /-- The version. -/
  | version
  /-- Help. -/
  | help
  /-- A job with these settings. -/
  | job (o : Settings)
deriving DecidableEq, Repr

/-- What a list of arguments asks for, after the settings given so far.  The arguments are read one after
    the other: a wish for the version or for help is granted when it is reached, whatever follows. -/
def readFrom (o : Settings) : List String → Except UsageError Wish
  | [] => .ok (.job o)
  | argument :: rest =>
    match Word.ofArgument argument, rest with
    | .version, _ => .ok .version
    | .help, _ => .ok .help
    | .terminator, [] => .ok (.job o)
    | .terminator, next :: _ => .error (.unexpected next)
    | .other, _ => .error (.unexpected argument)
    | .setting s (some value), rest =>
      match o.set s value with
      | .ok o => o.readFrom rest
      | .error e => .error e
    | .setting s none, [] => .error (.missingValue s)
    | .setting s none, value :: rest =>
      if isValue value then
        match o.set s value with
        | .ok o => o.readFrom rest
        | .error e => .error e
      else .error (.missingValue s)

/-- What a list of arguments asks for. -/
def read (arguments : List String) : Except UsageError Wish :=
  readFrom {} arguments

end Settings

/-! ### Jobs -/

/-- What the command is to do: render the metrics of a catalog for a window. -/
structure Job where
  /-- The path of the catalog. -/
  path : String
  /-- The name of the only metric to render; every metric without it. -/
  metric : Option String
  /-- The start of the window. -/
  start : Instant
  /-- The end of the window. -/
  stop : Instant
  /-- The scope expression; the catalog's without it. -/
  expression : Option String
deriving DecidableEq, Repr

/-- The variable that holds the path of the catalog where the setting is missing. -/
def pathVariable : String := "INFLUX_QUERY_CONFIG"

/-- The path of the catalog where nothing else is said. -/
def defaultPath : String := "influx-query.toml"

/-- The path of the catalog: the setting's, the environment's, or the one for all other cases.  The
    environment's must not be empty either. -/
def Settings.path (o : Settings) (env : Environment) : Except UsageError String :=
  match o.config, env.get? pathVariable with
  | some path, _ => .ok path
  | none, some path => if path = "" then .error .emptyPath else .ok path
  | none, none => .ok defaultPath

/-- The job that settings describe; the window is mandatory. -/
def Settings.job (o : Settings) (env : Environment) : Except UsageError Job := do
  let path ← o.path env
  match o.start, o.stop with
  | none, _ => .error (.missingSetting .start)
  | some _, none => .error (.missingSetting .stop)
  | some start, some stop => pure { path, metric := o.metric, start, stop, expression := o.scope }

/-! ### Unit test: which arguments are mistakes -/

example :
    ([["--metric="], ["--metric", "-"], ["--scope=--x"], ["-Vx"], ["--version", "x"], ["-V", "--end"], ["--"]].all
        fun arguments => (Settings.read arguments).toOption.isSome) = true
      ∧ ([["--metric"], ["--metric", "--"], ["--metric", "-1"], ["--metric", "a", "--metric=b"], ["--config="],
          ["--start", "x", "-V"], ["--", "x"], ["--version=1"], ["--met", "a"], ["x"], ["-x"], ["-"]].all
        fun arguments => (Settings.read arguments).toOption.isNone) = true := by
  decide +kernel

end CanaryMetrics.CommandLine
