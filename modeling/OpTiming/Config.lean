import OpTiming.Capability
import OpTiming.Failure
import OpTiming.OutputFormat
import OpTiming.Text.Numeral

/-!
# Configuration

What a run may be told: how long to loop, what to leave out, how to write.  Every setting has a
default, and some can be given by environment variables.

* **`Config`** — the settings and their defaults.
* **`readRuns`**, **`readWarmup`**, **`readCapability`**, **`readFlag`** — the grammar of each kind
  of value: blanks around it do not matter, and a text that is no value is an
  `invalidSetting` that names the setting and holds the text as it was given.
* **`ofEnvironment`** — the defaults overridden by the variables that are present.  The first
  invalid variable, in the order of the fields, decides the failure.
-/

namespace OpTiming

/-- The settings of a run. -/
structure Config where
  /-- Loop iterations of every probe body. -/
  runs : UInt64 := 80000000
  /-- How often a family's warmup body runs before the family is timed. -/
  warmup : UInt32 := 10
  /-- The capability from which on everything counts as unsupported. -/
  disabledFrom : Option Capability := none
  /-- Whether family headers, found features and skipped probes are noted. -/
  verbose : Bool := false
  /-- How result lines are written. -/
  format : OutputFormat := .text
  /-- The core to run on, or the place of an accelerator among those found. -/
  deviceId : UInt64 := 0
  /-- More places to look for the accelerator runtime, divided by colons. -/
  libraryPath : Option String := none
  deriving DecidableEq, Repr

namespace Config

/-! ## Values of settings -/

/-- The failure of a setting whose text denotes no value. -/
def invalid (key value : String) : Failure := .invalidSetting key value

/-- Read a value by its grammar, once the blanks around it are gone. -/
def readTrimmed {α : Type} (grammar : List Char → Option α) (key value : String) :
    Except Failure α :=
  match grammar (Text.trim value.toList) with
  | some x => .ok x
  | none => .error (invalid key value)

/-- Read a number of loop iterations. -/
def readRuns : String → String → Except Failure UInt64 := readTrimmed Text.Numeral.readUInt64?

/-- Read a number of warmup runs. -/
def readWarmup : String → String → Except Failure UInt32 := readTrimmed Text.Numeral.readUInt32?

/-- Read the name of a capability. -/
def readCapability : String → String → Except Failure Capability :=
  readTrimmed fun cs => Capability.parse? (String.ofList cs)

/-- The words that switch something off or on, in small letters. -/
def flagOfWord? : String → Option Bool
  | "" | "0" | "false" | "no" | "off" => some false
  | "1" | "true" | "yes" | "on" => some true
  | _ => none

/-- Read a flag; the case of ASCII letters does not matter. -/
def readFlag : String → String → Except Failure Bool :=
  readTrimmed fun cs => flagOfWord? (String.ofList (Text.lowerAscii cs))

/-! ## The environment -/

/-- The value of a variable if it is present, else the default. -/
def readOr {α : Type} (read : String → String → Except Failure α) (key : String)
    (lookup : String → Option String) (default : α) : Except Failure α :=
  match lookup key with
  | some value => read key value
  | none => .ok default

/-- The variables that are looked up. -/
def variableNames : List String :=
  [ "PEAKPROBE_RUNS", "PEAKPROBE_WARMUP", "PEAKPROBE_DISABLE_FROM", "PEAKPROBE_VERBOSE",
    "LIBOPENCL_PATH" ]

/-- The defaults, overridden by the variables that are present.  An empty library path counts as
absent, any other is kept as it is. -/
def ofEnvironment (lookup : String → Option String) : Except Failure Config := do
  let default : Config := {}
  let runs ← readOr readRuns "PEAKPROBE_RUNS" lookup default.runs
  let warmup ← readOr readWarmup "PEAKPROBE_WARMUP" lookup default.warmup
  let disabledFrom ← readOr (fun key value => some <$> readCapability key value)
    "PEAKPROBE_DISABLE_FROM" lookup default.disabledFrom
  let verbose ← readOr readFlag "PEAKPROBE_VERBOSE" lookup default.verbose
  let libraryPath := (lookup "LIBOPENCL_PATH").filter (· ≠ "")
  return { runs, warmup, disabledFrom, verbose, libraryPath }

end Config

end OpTiming
