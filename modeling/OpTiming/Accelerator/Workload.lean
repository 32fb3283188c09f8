import OpTiming.Accelerator.Device
import OpTiming.Accelerator.Range

/-!
# Workloads

The fixed set of accelerator workloads: streaming through local memory, streaming through global
memory, and chains of multiply-adds over four element types.  Each workload names its program and its
kernels, says how often they are timed, and turns an average time into a figure of merit.

* **`ElementType`**, **`Workload`** — the workloads, in the order in which they run (`sequence`).
* **`localRate`**, **`globalRate`**, **`computeRate`** — figures of merit from a time in
  microseconds.
* **`globalElements`**, **`seedChunks`** — the size of the streamed buffer, and the pieces in which it
  is filled.
* **`streamDispatch`** — the work-items that stream it.
* **`KernelResult`** — one figure under the name of its kernel variant.
-/

namespace OpTiming.Accelerator

/-- The element type of a compute workload. -/
inductive ElementType
  | int
  | float
  | half
  | double
  deriving DecidableEq, Repr

namespace ElementType

/-- Every element type, in the order in which they run. -/
def all : List ElementType := [int, float, half, double]

/-- The name of an element type, as it stands in programs. -/
def name : ElementType → String
  | int => "int"
  | float => "float"
  | half => "half"
  | double => "double"

/-- The name under which an element type is serialised. -/
def variant : ElementType → String
  | int => "Int"
  | float => "Float"
  | half => "Half"
  | double => "Double"

/-- The program that holds the kernels of an element type. -/
def program : ElementType → String
  | int => "compute_int_kernels"
  | float => "compute_sp_kernels"
  | half => "compute_hp_kernels"
  | double => "compute_dp_kernels"

/-- What the kernel names of an element type start with. -/
def kernelStem : ElementType → String
  | int => "compute_integer_v"
  | float => "compute_sp_v"
  | half => "compute_hp_v"
  | double => "compute_dp_v"

/-- The bytes of an element. -/
def size : ElementType → UInt64
  | int | float => 4
  | half => 2
  | double => 8

/-- Whether a device computes with an element type. -/
def supported (d : Device) : ElementType → Bool
  | int | float => true
  | half => d.halfSupported
  | double => d.doubleSupported

def decode (v : Json.Value) : Option ElementType := Json.unitVariant? all variant v

instance : Json.Form ElementType := ⟨fun t => Json.variant t.variant, decode⟩

end ElementType

inductive Workload
  /-- Juggling slots of a work-group's local memory. -/
  | localBandwidth
  /-- Streaming reads from global memory. -/
  | globalBandwidth
  /-- Chains of dependent multiply-adds. -/
  | compute (element : ElementType)
  deriving DecidableEq, Repr

namespace Workload

/-- The workloads, in the order in which they run. -/
def sequence : List Workload := localBandwidth :: globalBandwidth :: ElementType.all.map compute

/-- The header before the results of a workload. -/
def title : Workload → String
  | localBandwidth => "Local memory bandwidth (GBPS)"
  | globalBandwidth => "Global memory bandwidth (GBPS)"
  | compute t => t.name ++ " compute (GFLOPS)"

/-- The program of a workload. -/
def program : Workload → String
  | localBandwidth => "local_memory_bandwidth"
  | globalBandwidth => "global_memory_bandwidth"
  | compute t => t.program

/-- The vector widths that are measured. -/
def widths : Workload → List Nat
  | localBandwidth => [1, 2, 4]
  | globalBandwidth | compute _ => [1, 2, 4, 8, 16]

/-- How often each kernel is timed. -/
def repetitions : Workload → Nat
  | localBandwidth | globalBandwidth => 50
  | compute _ => 10

/-- The kernels of one width.  Global memory is streamed in two layouts, of which the faster counts. -/
def kernels (width : Nat) : Workload → List String
  | localBandwidth => ["krn_localmem_juggling_int" ++ toString width]
  | globalBandwidth =>
    [ "global_bandwidth_v" ++ toString width ++ "_global_offset",
      "global_bandwidth_v" ++ toString width ++ "_local_offset" ]
  | compute t => [t.kernelStem ++ toString width]

/-- The label of a result line. -/
def label (width : Nat) : Workload → String
  | localBandwidth => "int" ++ toString width
  | globalBandwidth => "float" ++ toString width
  | compute t => t.name ++ toString width

def encode : Workload → Json.Value
  | localBandwidth => Json.variant "LocalBandwidth"
  | globalBandwidth => Json.variant "GlobalBandwidth"
  | compute t => Json.variantOf "Compute" (Json.variant t.variant)

def decode (v : Json.Value) : Option Workload :=
  match Json.variant? v with
  | some ("LocalBandwidth", contents) => if Json.isUnit contents then some localBandwidth else none
  | some ("GlobalBandwidth", contents) => if Json.isUnit contents then some globalBandwidth else none
  | some ("Compute", some contents) => (ElementType.decode contents).map compute
  | _ => none

instance : Json.Form Workload := ⟨encode, decode⟩

end Workload

/-! ## Figures of merit -/

/-- Elements in the buffer of the local workload. -/
def localElements : Nat := 1048576

/-- Swap rounds per work-item in the local kernels. -/
def localRounds : Nat := 16

/-- Vectors fetched by each work-item in the global kernels. -/
def fetchesPerItem : Nat := 16

/-- Arithmetic operations of each work-item in the compute kernels. -/
def operationsPerItem : Nat := 4096

/-- Elements staged at a time when the global buffer is filled. -/
def chunkElements : UInt64 := 1048576

/-- Accesses of each work-item in the local kernels: six stores at the start, five swaps of four
accesses in every round, six loads at the end. -/
def localAccesses : Nat := 6 + 4 * 5 * localRounds + 6

/-- Gigabytes per second through local memory: so many elements, each four bytes, in so many
microseconds. -/
def localRate (elements : UInt64) (microseconds : Float) : Float :=
  localAccesses.toFloat * elements.toFloat * 4.0 / microseconds / 1000.0

/-- Gigabytes per second through global memory. -/
def globalRate (elements : UInt64) (microseconds : Float) : Float :=
  elements.toFloat * 4.0 / microseconds / 1000.0

/-- Billions of operations per second. -/
def computeRate (items : UInt64) (microseconds : Float) : Float :=
  items.toFloat * operationsPerItem.toFloat / microseconds / 1000.0

/-! ## The streamed buffer -/

/-- Half the largest allocation in elements of four bytes, rounded down to a power of two. -/
def globalElements (maxAllocation : UInt64) : UInt64 := roundToPower2 (maxAllocation / 4 / 2)

/-- The work-items that stream so many elements in vectors of a width. -/
def streamDispatch (elements : UInt64) (width : Nat) : Except Fault Range := do
  let vectors ← checkedDiv elements (.ofNat width)
  let items ← checkedDiv vectors (.ofNat fetchesPerItem)
  return .d1 items

/-- The number of pieces in which so many elements are staged. -/
def chunkCount (elements : UInt64) : Nat :=
  (elements.toNat + chunkElements.toNat - 1) / chunkElements.toNat

/-- The offset and the length of a piece. -/
def chunk (elements : UInt64) (index : Nat) : Except Fault (UInt64 × UInt64) := do
  let offset ← checkedMul (.ofNat index) chunkElements
  let left ← checkedSub elements offset
  return (offset, min chunkElements left)

/-- The pieces in which so many elements are staged, in order. -/
def seedChunks (elements : UInt64) : Except Fault (List (UInt64 × UInt64)) :=
  (List.range (chunkCount elements)).mapM (chunk elements)

/-! ## Results -/

/-- The figure of one kernel variant. -/
structure KernelResult where
  workload : Workload
  /-- The label of the variant. -/
  variant : String
  /-- Gigabytes or billions of operations per second. -/
  value : Float

namespace KernelResult

def encode (r : KernelResult) : Json.Value :=
  Json.record
    [ ("workload", r.workload.encode), ("variant", Json.ofString r.variant),
      ("value", Json.ofFloat r.value) ]

def decode (v : Json.Value) : Option KernelResult :=
  match Json.fields? ["workload", "variant", "value"] v with
  | some [workload, variant, value] => do
    return ⟨← Workload.decode (← workload), ← Json.toString? (← variant), ← Json.toFloat? (← value)⟩
  | _ => none

instance : Json.Form KernelResult := ⟨encode, decode⟩

end KernelResult

end OpTiming.Accelerator
