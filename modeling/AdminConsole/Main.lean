import AdminConsole.CommandLine

/-!
# The program

Runs the command line on the arguments and the environment of the process.
-/

namespace AdminConsole.CommandLine

/-- The variables that a run may look at, as the process has them. -/
def processEnvironment : IO Config.Environment := do
  let names := [Setting.pollInterval.envName, Setting.requestTimeout.envName, filterVariable]
  let values ← names.mapM fun name => IO.getEnv name
  return fun name => ((names.zip values).lookup name).join.map String.toUTF8

end AdminConsole.CommandLine

open AdminConsole

def main (args : List String) : IO UInt32 := do
  let result := CommandLine.run args (← CommandLine.processEnvironment)
  for event in result.log do
    IO.println (CommandLine.logLine event)
  IO.print result.output
  IO.eprint result.errors
  return result.exitCode
