import SchemaPool.Database.Codec
import SchemaPool.Json.Reader
import SchemaPool.Program.Run

/-! # The command line

Runs the program with its arguments and environment on a database whose script
stands on the standard input. -/

namespace SchemaPool

def readEnvironment : IO (List (String × String)) := do
  let names := "RUST_LOG" :: CliOption.all.map CliOption.variableName
  let values ← names.mapM fun name => return (name, ← IO.getEnv name)
  return values.filterMap fun entry => entry.2.map (entry.1, ·)

/-- The database that the standard input describes; one without peculiarities if it
describes none. -/
def readServer : IO Server := do
  let text ← (← IO.getStdin).readToEnd
  return .ofJson ((Json.parse? text).getD .null)

/-- The end of a run.  The database's script is read only when there is something to
do. -/
def runWithInput (args : List String) : IO RunResult := do
  let environment ← readEnvironment
  match Invocation.parse args environment with
  | .error _ => return runProgram args environment (.ofScript [] [])
  | .ok _ => return runProgram args environment (← readServer)

end SchemaPool

open SchemaPool in
def main (args : List String) : IO UInt32 := do
  let result ← runWithInput args
  for line in result.remarks do
    IO.eprintln line
  IO.print result.output
  return result.status.toUInt32
