import Std.Time.DateTime.Timestamp
import Verdict.CommandLine.Run

/-!
# The program

Reads the files and the input that the arguments ask for, runs the command on them and prints what
it gives.
-/

namespace Verdict

def readBytes (path : String) : IO FileContent := do
  try
    let bytes ← IO.FS.readBinFile path
    return some bytes
  catch _ => return none

def clock : IO Instant := do
  let time ← Std.Time.Timestamp.now
  return ⟨time.val.second.val, time.val.nano.val.toNat⟩

def surroundings (command : Command) : IO Surroundings := do
  let files ← command.paths.mapM fun path => do return (path, ← readBytes path)
  let input ← if command.readsInput then (← IO.getStdin).readBinToEnd else pure ByteArray.empty
  return ⟨fun path => (files.lookup path).join, some input⟩

def report (result : CommandResult) : IO UInt32 := do
  (← IO.getStdout).putStr result.output
  if let some message := result.error then
    (← IO.getStderr).putStrLn ("Error: " ++ message)
  return result.exitCode.toUInt32

end Verdict

open Verdict in
def main (arguments : List String) : IO UInt32 := do
  match Command.ofArguments? arguments with
  | .ok command => report (command.run (← surroundings command) (← clock))
  | .error error => report (.refused error)
