import Coedit.CommandLine

/-!
# The command line program

Reads the configuration from the arguments and the environment and says what it
is.
-/

namespace Coedit.CommandLine

/-- The variables of the environment that matter. -/
def readVariables : IO (Table String String) :=
  variableNames.foldlM (fun found name => do
    match (← IO.getEnv name) with
    | some value => return found.insert name value
    | none => return found) .empty

end Coedit.CommandLine

open Coedit

def main (arguments : List String) : IO UInt32 := do
  let found ← CommandLine.readVariables
  match CommandLine.parse arguments found.get? with
  | .ok configuration =>
      (configuration.summary found.get?).forM IO.println
      return 0
  | .error .displayHelp =>
      CommandLine.usage.forM IO.println
      return 0
  | .error error =>
      IO.eprintln ("error: " ++ error.message)
      return 2
