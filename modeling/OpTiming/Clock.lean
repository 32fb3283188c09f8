/-!
# Clocks and stopwatches

A monotonic clock as data.  Time is a whole number of nanoseconds, and it moves for two reasons: by
itself between readings, and because something timed took a while.

* **`Clock`** — where the clock stands, and by how much it moves before each of its readings.  Since
  it moves by natural numbers, every clock of this type is non-decreasing, and every non-decreasing
  sequence of readings is one of these clocks.
* **`Stopwatch`** — the reading at which timing started, with `elapsed` and `lap`.  Every operation on
  a stopwatch reads the clock exactly once.
* **`resolution`** — the smallest step seen between a reading and the first later one that differs
  from it, over a fixed number of rounds.
-/

namespace OpTiming

/-- A clock: where it stands, and what it will do. -/
structure Clock where
  /-- Where the clock stands, in nanoseconds. -/
  now : Nat
  /-- By how many nanoseconds it moves before its `n`-th reading, counted from zero. -/
  pace : Nat → Nat
  readings : Nat

namespace Clock

def read (c : Clock) : Nat × Clock :=
  let now := c.now + c.pace c.readings
  (now, { c with now, readings := c.readings + 1 })

/-- Let some time pass without a reading. -/
def advance (c : Clock) (nanoseconds : Nat) : Clock := { c with now := c.now + nanoseconds }

/-- A clock that moves by the same step before every `every`-th reading. -/
def ticking (start step every : Nat) : Clock :=
  ⟨start, fun n => if (n + 1) % every = 0 then step else 0, 0⟩

/-! ## The smallest step -/

/-- How many rounds decide the resolution. -/
def resolutionRounds : Nat := 64

/-- Read the clock until it differs from a reading, for at most `patience + 1` readings: the last
reading taken. -/
def spin (start : Nat) : (patience : Nat) → Clock → Nat × Clock
  | 0, c => c.read
  | patience + 1, c =>
    let (now, next) := c.read
    if now = start then spin start patience next else (now, next)

/-- One round: read the clock, and read it again until it has moved.  The step seen is the
difference. -/
def step (patience : Nat) (c : Clock) : Nat × Clock :=
  let (start, c) := c.read
  let (now, c) := spin start patience c
  (now - start, c)

/-- The smaller of a step and the best one so far, if there is one so far. -/
def better (best : Option Nat) (step : Nat) : Nat :=
  match best with
  | none => step
  | some b => if step < b then step else b

/-- The smallest step of several rounds and of those before them. -/
def smallestStep (patience : Nat) : (rounds : Nat) → Option Nat → Clock → Option Nat × Clock
  | 0, best, c => (best, c)
  | rounds + 1, best, c =>
    let (s, c) := c.step patience
    smallestStep patience rounds (some (better best s)) c

/-- The smallest step of the clock, in nanoseconds. -/
def resolution (patience : Nat) (c : Clock) : Nat × Clock :=
  let (best, c) := smallestStep patience resolutionRounds none c
  (best.getD 0, c)

end Clock

/-! ## Stopwatches -/

/-- A stopwatch: the reading at which it was started. -/
structure Stopwatch where
  epoch : Nat
  deriving DecidableEq, Repr

namespace Stopwatch

def start (c : Clock) : Stopwatch × Clock :=
  let (now, c) := c.read
  (⟨now⟩, c)

/-- The nanoseconds since the start. -/
def elapsed (w : Stopwatch) (c : Clock) : Nat × Clock :=
  let (now, c) := c.read
  (now - w.epoch, c)

/-- The nanoseconds since the start, and a stopwatch started at the same reading. -/
def lap (w : Stopwatch) (c : Clock) : Nat × Stopwatch × Clock :=
  let (now, c) := c.read
  (now - w.epoch, ⟨now⟩, c)

end Stopwatch

/-! ## Spans of time as real numbers -/

namespace Span

def second : Nat := 1000000000

/-- Whole seconds and the nanoseconds left over. -/
def secondsAndRest (nanoseconds : Nat) : Nat × Nat := (nanoseconds / second, nanoseconds % second)

def toNanoseconds (nanoseconds : Nat) : Float := nanoseconds.toFloat

/-- A span in milliseconds, by way of seconds. -/
def toMilliseconds (nanoseconds : Nat) : Float :=
  let (whole, rest) := secondsAndRest nanoseconds
  (whole.toFloat + rest.toFloat / second.toFloat) * 1000.0

end Span

end OpTiming
