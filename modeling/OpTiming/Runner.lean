import OpTiming.Bench

/-!
# Measuring and reporting

The one way in which a probe is measured and its result reported.

* **`measure`** — time the throughput body, then the latency body, each from a fresh start of the
  stopwatch.
* **`report`** — write a result line and flush it.
* **`run`** — measure a probe and report it.
-/

namespace OpTiming.Runner

open OpTiming.Action

/-- Time one body: the nanoseconds it took and the groups it reported. -/
def timeBody (body : Body) (runs : UInt64) : Action (Nat × UInt64) := do
  resetWatch
  let groups ← call body runs
  let nanoseconds ← elapsed
  return (nanoseconds, groups)

/-- Time both bodies of a probe, without writing anything. -/
def measure (probe : Probe) (runs : UInt64) : Action Timed := do
  let (throughputTime, throughputGroups) ← timeBody probe.throughput runs
  let (latencyTime, latencyGroups) ← timeBody probe.latency runs
  return {
    result := Measurement.ofTimings probe.name probe.width probe.remark
      (Span.toNanoseconds throughputTime, throughputGroups)
      (Span.toNanoseconds latencyTime, latencyGroups)
    throughputOperations := throughputGroups
    latencyOperations := latencyGroups }

def reportLine (line : Chunk) : Action Unit := do
  writeLine line
  flush

/-- Report figures that do not come from a clock. -/
def report (format : OutputFormat) (m : Measurement) : Action Unit :=
  reportLine (.ofText (m.line format))

/-- Report figures that are fresh from the clock. -/
def reportTimed (format : OutputFormat) (t : Timed) : Action Unit :=
  reportLine ⟨t.result.line format, t.maskedLine format⟩

def run (format : OutputFormat) (probe : Probe) (runs : UInt64) : Action Timed := do
  let t ← measure probe runs
  reportTimed format t
  return t

end OpTiming.Runner
