import NamedConstants.CommandLine.Program

/-!
# The executable
-/

/-- The exit code of the process for an ending. -/
def NamedConstants.Ending.status : NamedConstants.Ending Unit → UInt32
  | .exited (.int code) => code.toNat.toUInt32
  | .exited .null => 0
  | _ => 1

/-- Runs the program on the arguments of the process. -/
def main (arguments : List String) : IO UInt32 := do
  let r := NamedConstants.CommandLine.program NamedConstants.Host.standard arguments
  (← IO.getStdout).putStr r.stdout
  (← IO.getStderr).putStr r.stderr
  return r.ending.status
