import OpTiming.Clock
import OpTiming.Files
import OpTiming.Preflight.CpuList
import OpTiming.Preflight.CpuTimes
import OpTiming.Preflight.Warning
import OpTiming.Text.Lowercase

/-!
# Checks before a run

Four checks of the host, each of which gives at most one warning:

* **`governor`** — what controls the clock of the core in use;
* **`clockRate`** — how fast that clock runs now and could run;
* **`sibling`** — how busy another logical processor of the same core is, from two readings of the
  processor times;
* **`timer`** — how coarse the timing clock is beside the operations of one body.

The first three read files that describe the host.  What a check cannot find out it does not warn
of, except for a governor that is there and cannot be read.
-/

namespace OpTiming.Preflight

/-- A look into the files of the host; it may meet a fault. -/
abbrev Inspection := ExceptT Fault (StateM Files)

def readFile (path : String) : Inspection Reading :=
  ExceptT.lift (modifyGet (Files.read path))

/-- The path of a file that describes one core. -/
def corePath (core : UInt64) (leaf : String) : String :=
  "/sys/devices/system/cpu/cpu" ++ toString core ++ "/" ++ leaf

def timesPath : String := "/proc/stat"

/-! ## The governor -/

/-- What a reading of the governor gives rise to. -/
def governorWarning? (core : UInt64) : Reading → Option Warning
  | .text content =>
    let governor := String.ofList (Text.lowercase (Text.trim content.toList))
    if governor = "performance" then none else some (.governorNotPerformance core governor)
  | .missing => none
  | .failed reason => some (.governorUnreadable core reason)

/-- Check what controls the clock of a core. -/
def governor (core : UInt64) : Inspection (Option Warning) := do
  return governorWarning? core (← readFile (corePath core "cpufreq/scaling_governor"))

/-! ## The clock rate -/

/-- The share of its highest clock rate below which a core counts as slow. -/
def clockFloor : Float := 0.9

/-- What a clock rate gives rise to. -/
def clockWarning? (core current max : UInt64) : Option Warning :=
  if max = 0 ∨ max.toFloat * clockFloor ≤ current.toFloat then none
  else some (.clockBelowMax core current max)

/-- A clock rate in kilohertz, as the system writes it. -/
def rateOf? (reading : Reading) : Option UInt64 :=
  reading.text?.bind fun content => Text.Numeral.readUInt64? (Text.trim content.toList)

/-- Check how fast the clock of a core runs. -/
def clockRate (core : UInt64) : Inspection (Option Warning) := do
  match rateOf? (← readFile (corePath core "cpufreq/scaling_cur_freq")) with
  | none => return none
  | some current =>
    match rateOf? (← readFile (corePath core "cpufreq/cpuinfo_max_freq")) with
    | none => return none
    | some max => return clockWarning? core current max

/-! ## The sibling -/

/-- The busy share above which a sibling disturbs throughput. -/
def siblingThreshold : Float := 0.10

/-- What the times of a sibling at two moments give rise to. -/
def siblingWarning? (core sibling : UInt64) (before after : CpuTimes) : Option Warning :=
  let busy := CpuTimes.busyFraction before after
  if siblingThreshold < busy then some (.busySibling core sibling busy) else none

/-- The times of a processor now. -/
def timesNow (cpu : UInt64) : Inspection (Option CpuTimes) := do
  match ← readFile timesPath with
  | .text content => liftExcept (CpuTimes.parse? content cpu)
  | .missing | .failed _ => return none
where
  /-- An outcome as a look into no file. -/
  liftExcept (outcome : Except Fault (Option CpuTimes)) : Inspection (Option CpuTimes) :=
    ExceptT.mk (pure outcome)

/-- Check how busy the sibling of a core is. -/
def sibling (core : UInt64) : Inspection (Option Warning) := do
  let listed ← readFile (corePath core "topology/thread_siblings_list")
  match (listed.text?.bind CpuList.parse?).bind (CpuList.siblingOf? core) with
  | none => return none
  | some other =>
    -- two looks at the times, one right after the other
    match ← timesNow other with
    | none => return none
    | some before =>
      match ← timesNow other with
      | none => return none
      | some after => return siblingWarning? core other before after

/-- The checks of one core, in order. -/
def coreChecks (core : UInt64) : Inspection (List Warning) := do
  let governorWarning ← governor core
  let clockRateWarning ← clockRate core
  let siblingWarning ← sibling core
  return governorWarning.toList ++ clockRateWarning.toList ++ siblingWarning.toList

/-! ## The timer -/

/-- The error per operation, in nanoseconds, above which a run is warned of its timer. -/
def maxError : Float := 0.01

/-- The fewest groups that a body executes in one loop iteration. -/
def fewestGroups : UInt64 := 10

/-- The fewest operations that a body reports for so many iterations; never zero. -/
def fewestOperations (runs : UInt64) : UInt64 := max (saturatingMul runs fewestGroups) 1

/-- One step of the clock, shared among the operations of the smallest body. -/
def errorPerOperation (resolution : Float) (runs : UInt64) : Float :=
  resolution / (fewestOperations runs).toFloat

/-- Check how coarse the timing clock is. -/
def timer (resolution : Float) (runs : UInt64) : Option Warning :=
  let error := errorPerOperation resolution runs
  if maxError < error then some (.coarseTimer resolution error) else none

end OpTiming.Preflight
