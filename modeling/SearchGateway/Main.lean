import SearchGateway.CommandLine.Run

/-!
# The program

Prints what a run of the command line leaves behind. It opens no connection of its own, so only the
operations that need no server succeed.
-/

/-- Runs the command line. -/
def main (args : List String) : IO UInt32 := do
  let result :=
    SearchGateway.CommandLine.run SearchGateway.CommandLine.noNetwork (args.map String.toList)
  let out ← IO.getStdout
  let err ← IO.getStderr
  if !result.output.isEmpty then out.putStrLn (String.ofList result.output)
  if !result.errors.isEmpty then err.putStrLn (String.ofList result.errors)
  return result.status.toUInt32
