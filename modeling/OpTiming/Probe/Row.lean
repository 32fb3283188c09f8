import OpTiming.Probe

/-!
# Rows of probe tables

A probe table is written down as data: per probe a name, the number of groups that one loop iteration
executes, the number of elementary operations in a group, and where due a further need or a note.
**`Row.probe`** makes the probe of a row for one kind of loop, and **`family`** the family of several
rows, warmed up by the throughput body of one of them.
-/

namespace OpTiming.Probe

/-- The kind of loop around the bodies of a table. -/
inductive Loop
  /-- The loop counter has 64 bits. -/
  | wide
  /-- The loop counter has 32 bits; more iterations than it can count are not run. -/
  | narrow
  deriving DecidableEq, Repr

/-- The body of a loop that executes so many groups in every iteration. -/
def Loop.body (loop : Loop) (label : String) (groups : UInt64) : Body :=
  match loop with
  | wide => Body.unrolled label groups
  | narrow => Body.narrowUnrolled label groups

/-- A probe as it is written down in a table. -/
structure Row where
  name : String
  /-- The groups that one loop iteration executes, in either body. -/
  groups : UInt64
  width : UInt32
  requires : List Capability
  remark : Option String

/-- A row without a further need and without a note. -/
def row (name : String) (groups : UInt64) (width : UInt32) : Row := ⟨name, groups, width, [], none⟩

namespace Row

/-- The row with a further need. -/
def needing (r : Row) (requires : List Capability) : Row := { r with requires }

/-- The row with a note. -/
def noted (r : Row) (text : String) : Row := { r with remark := some text }

/-- The body with independent operands. -/
def throughput (loop : Loop) (r : Row) : Body := loop.body (r.name ++ " throughput") r.groups

/-- The body with a chain of dependent operands. -/
def latency (loop : Loop) (r : Row) : Body := loop.body (r.name ++ " latency") r.groups

/-- The probe of a row. -/
def probe (loop : Loop) (r : Row) : Probe :=
  { name := r.name, throughput := r.throughput loop, latency := r.latency loop
    width := r.width, requires := r.requires, remark := r.remark }

end Row

/-- The family of several rows. -/
def family (loop : Loop) (title : String) (requires : List Capability) (warmup : Row)
    (rows : List Row) : Family :=
  { title, requires, warmup := warmup.throughput loop, probes := rows.map (Row.probe loop) }

end OpTiming.Probe
