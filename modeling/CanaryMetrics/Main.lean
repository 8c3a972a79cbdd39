import CanaryMetrics.CommandLine.Command

/-!
# The program

`main` reads what the command depends on — the environment file, the environment and the catalog — and
writes what it comes to.  All decisions are made by `CommandLine.plan` and `Job.report`.
-/

namespace CanaryMetrics.Program

open CommandLine

/-- What stands at a path on the disk; a path that leads through a file leads nowhere. -/
def nodeAt (path : String) : IO (Option FileNode) := do
  try
    return some (.file (← IO.FS.readBinFile path).data.toList)
  catch
    | .noFileOrDirectory .. => return none
    | .inappropriateType (some _) .. => return none
    | .inappropriateType none .. => return some .directory
    | e => throw e

/-- The first file at one of these paths. -/
def firstFile : List String → IO (Option FileNode)
  | [] => return none
  | path :: paths => do
    match ← nodeAt path with
    | some (.file content) => return some (.file content)
    | _ => firstFile paths

/-- The values of these names in the environment. -/
def lookUp : List String → IO Environment
  | [] => return {}
  | name :: names => do
    let env ← lookUp names
    match ← IO.getEnv name with
    | some value => return env.define name value
    | none => return env

/-- What the command comes to. -/
def outcomeOf (arguments : List String) : IO Outcome := do
  let settings := assignmentsOf (← firstFile (environmentPaths (← IO.currentDir).toString))
  match (← lookUp (pathVariable :: Environment.mentioned settings)).load? settings with
  | none => return .stopped
  | some env =>
    match plan arguments env with
    | .inl o => return o
    | .inr j => return .done (j.report (← nodeAt j.path))

end CanaryMetrics.Program

/-- Runs the command: events and the final error go to the error stream. -/
def main (arguments : List String) : IO UInt32 := do
  let o ← CanaryMetrics.Program.outcomeOf arguments
  for event in o.log do
    IO.eprintln event.text
  IO.print o.output
  if let some text := o.error? then
    IO.eprintln text
  return UInt32.ofNat o.exitStatus
