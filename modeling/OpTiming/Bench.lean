import OpTiming.Clock
import OpTiming.Files
import OpTiming.Measurement
import OpTiming.Probe
import OpTiming.Sink

/-!
# The bench

What a run changes while it goes on, and the actions that change it.  A run reads a clock, calls loop
bodies, opens files, asks for a processor, writes results to a sink and notes to the terminal.  All
of this is the **`Bench`**; an **`Action`** takes a bench and gives a result and the bench after it.
An action that stops early still leaves its bench behind: what was written, noted and called up to
then.
-/

namespace OpTiming

structure Call where
  body : String
  /-- The number of loop iterations it was given. -/
  runs : UInt64
  deriving DecidableEq, Repr

/-- What a run changes while it goes on. -/
structure Bench where
  /-- The clock that times the bodies. -/
  clock : Clock
  /-- The stopwatch with which they are timed. -/
  watch : Stopwatch
  /-- Where result lines go. -/
  sink : Sink
  /-- The files that describe the host. -/
  files : Files
  /-- The notes made, in order. -/
  notes : Array String
  /-- The bodies called, in order. -/
  calls : Array Call
  /-- The processors the run was pinned to, in order. -/
  pins : Array UInt64

/-- A step of a run: it gives a result or stops, and leaves a bench behind in either case. -/
abbrev Action := ExceptT Stop (StateM Bench)

namespace Bench

/-- A bench before a run. -/
def new (clock : Clock) (sink : Sink) (files : Files) : Bench :=
  { clock, watch := ⟨clock.now⟩, sink, files, notes := #[], calls := #[], pins := #[] }

/-- Everything noted, a line for each note. -/
def noteText (b : Bench) : String := String.join (b.notes.toList.map (· ++ "\n"))

end Bench

namespace Action

/-- Run an action. -/
def on {α : Type} (action : Action α) (bench : Bench) : Except Stop α × Bench := action.run bench

def note (text : String) : Action Unit := modify fun b => { b with notes := b.notes.push text }

def noteIf (condition : Bool) (text : String) : Action Unit := if condition then note text else pure ()

/-- Read the clock through an operation of it. -/
def timing {α : Type} (operation : Clock → α × Clock) : Action α :=
  modifyGet fun b => let (x, clock) := operation b.clock; (x, { b with clock })

/-- Start the stopwatch again. -/
def resetWatch : Action Unit := do
  let watch ← timing Stopwatch.start
  modify fun b => { b with watch }

/-- The nanoseconds on the stopwatch. -/
def elapsed : Action Nat := do
  let b ← get
  timing b.watch.elapsed

/-- Call a loop body: how many groups it reports. -/
def call (body : Body) (runs : UInt64) : Action UInt64 := do
  modify fun b => { b with calls := b.calls.push ⟨body.label, runs⟩, clock := b.clock.advance body.spend }
  match body.count runs with
  | .ok groups => pure groups
  | .error fault => throw (.fault fault)

def write (chunk : Chunk) : Action Unit := do
  let b ← get
  match b.sink.write chunk with
  | .ok sink => set { b with sink }
  | .error failure => throw (.failure failure)

def flush : Action Unit := do
  let b ← get
  let (outcome, sink) := b.sink.flush
  set { b with sink }
  match outcome with
  | .ok () => pure ()
  | .error failure => throw (.failure failure)

/-- Write a line: its text, then its end. -/
def writeLine (line : Chunk) : Action Unit := do
  write line
  write .lineFeed

end Action

end OpTiming
