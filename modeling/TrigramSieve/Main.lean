import TrigramSieve.Command.Run

/-! The command line: writes the outcome of the arguments. -/

def main (arguments : List String) : IO UInt32 := do
  let outcome := TrigramSieve.Command.run (arguments.map String.toList)
  (← IO.getStdout).putStr (String.ofList outcome.stdout)
  (← IO.getStderr).putStr (String.ofList outcome.stderr)
  return outcome.code.toUInt32
