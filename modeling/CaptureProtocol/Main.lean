import CaptureProtocol.CommandLine

/-!
# The program

Runs the command line and shows what it gives.
-/

/-- Runs the command line, writes its texts and ends with its exit code. -/
def main (arguments : List String) : IO UInt32 := do
  let outcome := CaptureProtocol.CommandLine.execute arguments
  IO.print outcome.output
  IO.eprint outcome.errors
  return UInt32.ofNat outcome.code
