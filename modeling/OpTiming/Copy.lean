import OpTiming.Bench

/-!
# Copy bandwidth

How fast the host copies memory.  **`rate`** turns the time of one copy into a bandwidth, and
**`measure`** times several copies and takes their average.  Every copy is followed by a look at the
first byte, so copies of nothing cannot be made.
-/

namespace OpTiming.Copy

open OpTiming.Action

/-- Bytes in each buffer. -/
def bufferBytes : UInt64 := 104857600

/-- Copies that are not timed. -/
def warmups : UInt64 := 5

/-- Copies that are timed. -/
def repetitions : UInt64 := 40

/-- Gigabytes per second if one copy of so many bytes takes so many milliseconds.  A copy reads and
writes every byte. -/
def rate (bytes : UInt64) (milliseconds : Float) : Float :=
  2.0 * bytes.toFloat / (1024.0 * 1024.0 * 1024.0) * 1000.0 / milliseconds

/-- Make several copies of so many bytes. -/
def makeCopies (bytes copies : UInt64) : Action Unit :=
  if bytes = 0 ∧ copies ≠ 0 then throw (.fault .emptyBuffer) else pure ()

/-- The average bandwidth of the timed copies. -/
def measure (bytes warmup copies : UInt64) : Action Float := do
  makeCopies bytes warmup
  let watch ← timing Stopwatch.start
  makeCopies bytes copies
  let nanoseconds ← timing watch.elapsed
  return rate bytes (Span.toMilliseconds nanoseconds / (max copies 1).toFloat)

end OpTiming.Copy
