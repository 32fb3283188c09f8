import OpTiming.Capability
import OpTiming.Fault

/-!
# Probes

A **probe** times one instruction, or a short group of them, through two loop bodies: one repeats
the group on independent registers (throughput), the other on a single one (latency).  What a body
does to the processor is only time; what can be said of it beforehand is the number of groups it
executes for a given number of loop iterations.

* **`Body`** — a loop body: a label, the groups it reports, and the time it takes beyond what the
  clock moves by itself.
* **`Probe`** — a row of a table: two bodies under one name, what they need, how much one group
  counts.
* **`Family`** — probes that share a warmup body and a need.
-/

namespace OpTiming

/-- A loop body. -/
structure Body where
  /-- What a body is told apart by. -/
  label : String
  /-- The number of groups executed in so many loop iterations. -/
  count : UInt64 → Except Fault UInt64
  /-- The nanoseconds by which it moves the clock. -/
  spend : Nat := 0

namespace Body

/-- A body that reports the same number whatever the number of iterations. -/
def constant (label : String) (groups : UInt64) (spend : Nat) : Body :=
  ⟨label, fun _ => .ok groups, spend⟩

/-- What a loop reports that executes a fixed number of groups in every iteration.  A loop without
iterations is not entered. -/
def unrolledCount (groups trips : UInt64) : Except Fault UInt64 :=
  if trips = 0 then .ok 0 else checkedMul trips groups

/-- A body that executes a fixed number of groups in every iteration. -/
def unrolled (label : String) (groups : UInt64) : Body := ⟨label, unrolledCount groups, 0⟩

/-- The largest number of iterations of a loop with a 32-bit counter. -/
def largestNarrowTrip : UInt64 := 4294967295

/-- A body whose loop counter has 32 bits: it executes a fixed number of groups in every iteration,
and never runs more iterations than fit the counter. -/
def narrowUnrolled (label : String) (groups : UInt64) : Body :=
  ⟨label, fun runs => unrolledCount groups (min runs largestNarrowTrip), 0⟩

end Body

/-- A row of a probe table. -/
structure Probe where
  /-- The name in result lines. -/
  name : String
  /-- The body with independent operands. -/
  throughput : Body
  /-- The body with a chain of dependent operands. -/
  latency : Body
  /-- Elementary operations per group. -/
  width : UInt32
  /-- What the probe needs besides what its family needs. -/
  requires : List Capability
  /-- A note for the result line. -/
  remark : Option String

/-- Probes that share a warmup body and a need. -/
structure Family where
  /-- The title in headers. -/
  title : String
  /-- What every probe of the family needs. -/
  requires : List Capability
  /-- The body that runs before the first measurement, whose count is of no interest. -/
  warmup : Body
  /-- The probes, in the order in which they run. -/
  probes : List Probe

namespace Family

/-- All that a probe of the family needs, the family's needs first. -/
def needs (family : Family) (probe : Probe) : List Capability := family.requires ++ probe.requires

end Family

end OpTiming
