import ChartGestures.CommandLine

open ChartGestures

/-- The text of a file, if it can be read. -/
def readText (path : String) : IO (Option String) := do
  try return some (← IO.FS.readFile path)
  catch _ => return none

def main (args : List String) : IO UInt32 := do
  let outcome ← CommandLine.run readText args
  IO.sleep (outcome.lengthNanos / nanosPerMilli).toUInt32
  (← IO.getStdout).putStr outcome.output
  unless outcome.message.isEmpty do (← IO.getStderr).putStrLn outcome.message
  return outcome.code.toUInt32
