import CanonicalLR.CommandLine.Launch

/-! # The program

Reads the command line and the environment and reports what the service is started with. Opening the
port is left to the surroundings.
-/
namespace CanonicalLR.CommandLine

def variableNames : List String :=
  ["CLR_HOST", "CLR_PORT", "CLR_DEBUG", "CLR_MAX_INPUT_TOKENS", "CLR_MAX_STATES", "CLR_MAX_STEPS"]

def readEnvironment : IO Environment := do
  let values ← variableNames.mapM fun name => do
    return (← IO.getEnv name).map fun value => (name, value)
  return values.filterMap id

end CanonicalLR.CommandLine

open CanonicalLR.CommandLine in
def main (arguments : List String) : IO UInt32 := do
  let outcome := launch arguments (← readEnvironment)
  IO.print outcome.standardOutput
  IO.eprint outcome.standardError
  match outcome with
  | .failed e =>
    IO.eprintln e.message
    return 1
  | _ => return ((outcome.exitCode?).getD 0).toUInt32
