import OpTiming.Failure
import OpTiming.Fault
import OpTiming.Json.Form
import OpTiming.Text.Blank

/-!
# Devices

What an accelerator says of itself, and what follows from it for a run.

* **`Query`** — the raw answers of the runtime.
* **`Device`** — the properties that workloads depend on, with `ofQuery`.  The work-group size is the
  first reported one, at least 256, and lower for vendors whose drivers fail at what they report.
* **`hasExtension`** — whether a name is one of the words of an extension text.
* **`contextProperties`** — the list of properties from which a context is made.
* **`computeSize`** — how many work-items a compute workload gets.
-/

namespace OpTiming.Accelerator

/-! ## Extensions -/

/-- Whether a name is one of the words of an extension text. -/
def hasExtension (extensions name : String) : Bool :=
  (Text.words extensions.toList).contains name.toList

/-! ## Work-group sizes -/

/-- The smallest work-group size assumed of a device. -/
def leastWorkGroup : UInt64 := 256

/-- The largest work-group size that each of these vendors' drivers bear. -/
def vendorLimits : List (String × UInt64) := [("qualcomm", 128), ("nvidia", 256)]

/-- Whether some characters occur one after the other in a text. -/
def occursIn (part : List Char) : List Char → Bool
  | [] => part.isEmpty
  | c :: cs => part.isPrefixOf (c :: cs) || occursIn part cs

/-- Whether a vendor's name has a given word in it; the case of ASCII letters does not matter. -/
def vendorIs (vendor word : String) : Bool := occursIn word.toList (Text.lowerAscii vendor.toList)

/-- The work-group size to dispatch with. -/
def workGroupSize (sizes : List UInt64) (vendor : String) : UInt64 :=
  vendorLimits.foldl (fun size (word, limit) => if vendorIs vendor word then min size limit else size)
    (max (sizes.headD 0) leastWorkGroup)

/-! ## Properties -/

/-- The raw answers of the runtime. -/
structure Query where
  name : String := ""
  vendor : String := ""
  driverVersion : String := ""
  /-- The extensions, with blanks between them. -/
  extensions : String := ""
  computeUnits : UInt32 := 0
  /-- The largest number of work-items in each dimension. -/
  workItemSizes : List UInt64 := []
  /-- The largest allocation, in bytes. -/
  maxAllocation : UInt64 := 0
  /-- The global memory, in bytes. -/
  globalMemory : UInt64 := 0
  /-- The highest clock, in megahertz. -/
  clock : UInt32 := 0

/-- The properties that workloads depend on. -/
structure Device where
  name : String
  driverVersion : String
  extensions : String
  computeUnits : UInt32
  workGroup : UInt64
  maxAllocation : UInt64
  globalMemory : UInt64
  clock : UInt32
  /-- Whether the device computes with 16-bit numbers. -/
  halfSupported : Bool
  /-- Whether the device computes with 64-bit numbers. -/
  doubleSupported : Bool
  deriving DecidableEq, Repr

namespace Device

/-- The properties that follow from the runtime's answers. -/
def ofQuery (q : Query) : Device :=
  { name := q.name, driverVersion := q.driverVersion, extensions := q.extensions
    computeUnits := q.computeUnits, workGroup := workGroupSize q.workItemSizes q.vendor
    maxAllocation := q.maxAllocation, globalMemory := q.globalMemory, clock := q.clock
    halfSupported := hasExtension q.extensions "cl_khr_fp16"
    doubleSupported := hasExtension q.extensions "cl_khr_fp64" || hasExtension q.extensions "cl_amd_fp64" }

/-- The lines that introduce a device. -/
def identityLines (d : Device) : List String :=
  [ "Device: " ++ d.name,
    "Extensions: " ++ d.extensions,
    "Driver version: " ++ d.driverVersion,
    "Compute units: " ++ toString d.computeUnits,
    "Clock frequency: " ++ toString d.clock ]

/-- The names of the fields, in written order. -/
def fieldNames : List String :=
  ["device_name", "driver_version", "extensions", "num_cus", "max_wg_size", "max_alloc_size",
    "max_global_size", "max_clock_freq", "half_supported", "double_supported"]

def encode (d : Device) : Json.Value :=
  Json.record
    [ ("device_name", Json.ofString d.name),
      ("driver_version", Json.ofString d.driverVersion),
      ("extensions", Json.ofString d.extensions),
      ("num_cus", Json.ofNat d.computeUnits.toNat),
      ("max_wg_size", Json.ofNat d.workGroup.toNat),
      ("max_alloc_size", Json.ofNat d.maxAllocation.toNat),
      ("max_global_size", Json.ofNat d.globalMemory.toNat),
      ("max_clock_freq", Json.ofNat d.clock.toNat),
      ("half_supported", Json.ofBool d.halfSupported),
      ("double_supported", Json.ofBool d.doubleSupported) ]

def decode (v : Json.Value) : Option Device :=
  match Json.fields? fieldNames v with
  | some [name, driverVersion, extensions, computeUnits, workGroup, maxAllocation, globalMemory,
      clock, half, double] => do
    return { name := ← Json.toString? (← name)
             driverVersion := ← Json.toString? (← driverVersion)
             extensions := ← Json.toString? (← extensions)
             computeUnits := ← Json.toUInt32? (← computeUnits)
             workGroup := ← Json.toUInt64? (← workGroup)
             maxAllocation := ← Json.toUInt64? (← maxAllocation)
             globalMemory := ← Json.toUInt64? (← globalMemory)
             clock := ← Json.toUInt32? (← clock)
             halfSupported := ← Json.toBool? (← half)
             doubleSupported := ← Json.toBool? (← double) }
  | _ => none

instance : Json.Form Device := ⟨encode, decode⟩

end Device

/-! ## Contexts and selection -/

/-- The keys of context properties: the platform, then the performance hint and its value, then the
priority hint and its value. -/
def propertyKeys : List Int := [0x1084, 0x40C2, 0x40C3, 0x40C9, 0x40CA]

/-- The properties of a context on a platform, ended by zero.  A device that offers performance hints
is asked for high performance and high priority. -/
def contextProperties (platform : Int) (extensions : String) : List Int :=
  propertyKeys.take 1 ++ platform ::
    ((if hasExtension extensions "cl_qcom_perf_hint" then propertyKeys.drop 1 else []) ++ [0])

/-- The device at a place; there is no falling back to another one. -/
def selectDevice {α : Type} (devices : List α) (index : Nat) : Except Failure α :=
  match devices[index]? with
  | some device => .ok device
  | none => .error (.invalidDeviceIndex index devices.length)

/-! ## Sizes -/

/-- The largest power of two that is not above a number; zero stays zero. -/
def roundToPower2 (n : UInt64) : UInt64 :=
  if n = 0 then 0 else UInt64.ofNat (Nat.pow 2 n.toNat.log2)

/-- Work-items per compute unit and work-item of a group. -/
def itemsPerUnit : UInt64 := 2048

/-- The number of work-items of a compute workload over elements of a given size in bytes: so many
that the output fits one allocation, and fills a power of two bytes. -/
def computeSize (d : Device) (elementSize : UInt64) : Except Fault UInt64 := do
  let perGroup ← checkedMul d.computeUnits.toUInt64 itemsPerUnit
  let items ← checkedMul perGroup d.workGroup
  let bytes ← checkedMul items elementSize
  checkedDiv (roundToPower2 (min bytes d.maxAllocation)) elementSize

end OpTiming.Accelerator
