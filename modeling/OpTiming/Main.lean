import OpTiming.CommandLine
import OpTiming.Host

/-!
# The program

The command line around the library.  The arguments and the environment are read here and whatever
the library answers is printed; nothing is decided here.

Nothing can be found out about the host from here, and loop bodies are counted and not executed.  A
run therefore takes place on the least host, on which no file describes the host and every body takes
a single step of the clock.
-/

namespace OpTiming.Main

/-- The values of the variables that are looked up. -/
def environment : IO (List (String × String)) := do
  let values ← (Config.variableNames ++ Ink.variableNames).mapM fun key => do
    return (key, ← IO.getEnv key)
  return values.filterMap fun (key, value) => value.map (key, ·)

/-- The nanoseconds between two readings of the system's clock, at least one. -/
def clockStep : IO Nat := do
  let before ← IO.monoNanosNow
  let after ← IO.monoNanosNow
  return max 1 (after - before)

/-- The bench of a run. -/
def bench : IO Bench := do
  return .new (.ticking (← IO.monoNanosNow) (← clockStep) 1) (.new none none) (.ofList [])

/-- Run on the host, print what was written and noted, and give the status. -/
def start (config : Config) : IO UInt32 := do
  let (outcome, after) := (Backend.cpu.execute .plain .least config).on (← bench)
  IO.eprint after.noteText
  IO.print after.sink.text
  match outcome with
  | .ok () => return 0
  | .error stop =>
    IO.eprintln ("error: " ++ stop.message)
    return 1

/-- Print an answer and give the status. -/
def give : CommandLine.Answer → IO UInt32
  | .finished status output notes => do
    IO.print output
    IO.eprint notes
    return UInt32.ofNat status
  | .rejected => do
    IO.eprintln (CommandLine.usage .plain)
    return 2
  | .start config => start config

end OpTiming.Main

/-- Answer the command line. -/
def main (arguments : List String) : IO UInt32 := do
  let given ← OpTiming.Main.environment
  OpTiming.Main.give (OpTiming.CommandLine.answer (fun key => given.lookup key) arguments)
