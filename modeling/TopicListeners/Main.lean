import TopicListeners.Startup

/-!
# The command line

Starts a container with the settings of the process's environment. Events go to standard output,
the reasons of a failure to standard error.

The program itself talks to no broker: the cluster that it starts against is one that never answers
(`Cluster.unreachable`), with which everything but transactions can be set up.
-/

namespace TopicListeners

/-- The variables of the process, as far as a deployment takes them. -/
def readVariables : List Variable → IO (List (String × String))
  | [] => pure []
  | v :: vs => do
    let rest ← readVariables vs
    match ← IO.getEnv v.name with
    | none => pure rest
    | some s => pure ((v.name, s) :: rest)

/-- Writes down a report. -/
def printReport (r : Report) : IO Unit := do
  for e in r.log do
    IO.println (e.level.toText ++ " " ++ e.line)
  match r.error with
  | none => pure ()
  | some e =>
    for line in e.chain do
      IO.eprintln line

end TopicListeners

open TopicListeners in
/-- Starts a container. -/
def main : IO UInt32 := do
  let values ← readVariables Deployment.loader.reads
  let report := Report.ofRun .cluster .unreachable fun name => values.lookup name
  printReport report
  pure report.exit
