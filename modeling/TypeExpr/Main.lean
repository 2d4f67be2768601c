import TypeExpr.CommandLine.Run

/-!
# `TypeExpr.Main`: the program

Hands the arguments to the command, prints what it leaves behind, and exits with its status. The
choices for its exclamation are drawn at random.
-/

open TypeExpr

/-- Runs the command on the arguments of the process. -/
def main (arguments : List String) : IO UInt32 := do
  let drawn ← (List.replicate Outburst.draws ()).mapM fun _ => IO.rand 0 0x3FFFFFFF
  let choices : Choices := fun k => drawn.getD k 0
  let result := CommandLine.run choices (arguments.map String.toList)
  (← IO.getStdout).putStr (String.ofList result.stdout)
  (← IO.getStderr).putStr (String.ofList result.stderr)
  return result.status.toUInt32
