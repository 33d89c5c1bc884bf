import RoutePattern.CommandLine.Run

/-!
# The program
-/

/-- Runs the command line with the arguments of the process. -/
def main (arguments : List String) : IO UInt32 := do
  let stdout ← IO.getStdout
  let stderr ← IO.getStderr
  match RoutePattern.CommandLine.run (arguments.map String.toList) with
  | .ok outcome =>
    stdout.putStr (String.ofList outcome.output)
    stderr.putStr (String.ofList outcome.errors)
    return UInt32.ofNat outcome.status
  | .error error =>
    stderr.putStrLn (String.ofList error.message)
    return 1
