import OpTiming.Backend
import OpTiming.Catalog
import OpTiming.Copy
import OpTiming.Detection.X86
import OpTiming.Preflight.Checks
import OpTiming.Probe.X86

/-!
# Runs on the host

The full sequence of a run on the host's own processor: check the host, pin the run to a core,
introduce the host, find out what the processor has, and run the x86 catalog.

* **`Host`** — what is fixed about the host during a run.  The resolution of the clock and the copy
  bandwidth may be known beforehand; otherwise they are measured with the clock of the bench.
  **`Host.least`** is the host of which nothing is known.
* **`pin`** — ask for a core.  A refusal is noted and does not end the run.
* **`introduction`** — the lines about the host before the results.
* **`execute`** — the full sequence, and **`Backend.execute`** the same for any backend.

Everything found before the catalog runs goes to the notes, never to the sink, apart from the
introduction.
-/

namespace OpTiming

/-- What is fixed about a host during a run. -/
structure Host where
  /-- The number of logical processors. -/
  cores : UInt64
  /-- What the processor says of itself. -/
  processor : Detection.X86.Processor
  /-- Why the run cannot be pinned to a core, if it cannot. -/
  pinRefusal : Option String
  /-- The resolution of the clock in nanoseconds, if it is known. -/
  resolution : Option Float
  /-- The copy bandwidth, if it is known. -/
  bandwidth : Option Float
  /-- How many readings the clock may take to move. -/
  patience : Nat

namespace Host

open OpTiming.Action

/-- The least host: one core of which only the oldest extensions are known, and a clock that moves
between any two readings. -/
def least : Host :=
  { cores := 1, processor := .least, pinRefusal := none, resolution := none, bandwidth := none
    patience := 1 }

/-! ## Before the results -/

/-- Look into the files of the host. -/
def inspect {α : Type} (inspection : Preflight.Inspection α) : Action α := do
  let b ← get
  let (outcome, files) := inspection.run b.files
  set { b with files }
  match outcome with
  | .ok x => pure x
  | .error fault => throw (.fault fault)

def clockResolution (host : Host) : Action Float :=
  match host.resolution with
  | some x => pure x
  | none => do return Span.toNanoseconds (← timing (Clock.resolution host.patience))

def preflight (host : Host) (core runs : UInt64) : Action Preflight.Findings := do
  let found ← inspect (Preflight.coreChecks core)
  let resolution ← clockResolution host
  return ⟨found ++ (Preflight.timer resolution runs).toList⟩

/-- The number of cores that can be asked for. -/
def pinnableCores : UInt64 := 1024

/-- Why a run was not pinned. -/
inductive PinFailure
  /-- The core's number is too large to be asked for. -/
  | beyondMask (core : UInt64)
  /-- The system refused. -/
  | refused (reason : String)
  deriving DecidableEq, Repr

def PinFailure.message : PinFailure → String
  | beyondMask core => "core " ++ toString core ++ " exceeds CPU_SETSIZE"
  | refused reason => reason

/-- Ask for a core: why the run was not pinned to it, if it was not. -/
def pin (host : Host) (core : UInt64) : Action (Option PinFailure) :=
  if pinnableCores ≤ core then pure (some (.beyondMask core))
  else do
    modify fun b => { b with pins := b.pins.push core }
    return host.pinRefusal.map .refused

def copyBandwidth (host : Host) : Action Float :=
  match host.bandwidth with
  | some x => pure x
  | none => Copy.measure Copy.bufferBytes Copy.warmups Copy.repetitions

/-- The lines about the host before the results, each as the pieces in which it is written. -/
def introduction (cores core : UInt64) (bandwidth : Float) : OutputFormat → List (List String)
  | .text =>
    [ ["there are ", toString cores, " cores, currently use core id :", toString core],
      [],
      ["bandwidth: ", Decimal.fixed 6 bandwidth, " Gbps"] ]
  | .json =>
    [ [String.ofList
        (Json.record [("core_id", Json.ofNat core.toNat), ("cores", Json.ofNat cores.toNat)]).compact],
      [String.ofList (Json.record [("bandwidth_gbps", Json.ofFloat bandwidth)]).compact] ]

def writePieces : List String → Action Unit
  | [] => pure ()
  | piece :: pieces => do
    write (.ofText piece)
    writePieces pieces

/-- Write several lines, each piece by piece and then its end. -/
def writeLines : List (List String) → Action Unit
  | [] => pure ()
  | line :: lines => do
    writePieces line
    write .lineFeed
    writeLines lines

def noteAll : List String → Action Unit
  | [] => pure ()
  | text :: texts => do
    note text
    noteAll texts

/-! ## The full sequence -/

/-- What a run may use: what the processor has, below the threshold of the settings. -/
def features (host : Host) (config : Config) : FeatureSet :=
  (FeatureSet.ofList (Detection.X86.detect host.processor)).restrict config.disabledFrom

/-- What is noted, verbose or not, where the oldest family cannot run. -/
def baselineNote? (features : FeatureSet) : Option String :=
  if features.supports .sse2 then none else some "this x86 CPU does not support sse2."

def execute (ink : Ink) (host : Host) (config : Config) : Action Catalog.Report := do
  let core := config.deviceId
  let findings ← preflight host core config.runs
  noteAll (findings.descriptions.map (Terminal.warning ink))
  -- a run that is refused its core goes on without it
  let refusal ← pin host core
  noteAll (refusal.toList.map fun failure => Terminal.caution ink failure.message)
  resetWatch
  let bandwidth ← copyBandwidth host
  writeLines (introduction host.cores core bandwidth config.format)
  let features := features host config
  noteIf config.verbose (Terminal.features ink features.show)
  noteAll ((baselineNote? features).toList.map (Terminal.warning ink))
  Catalog.run ink features config Probe.X86.catalog

end Host

def Backend.execute (ink : Ink) (host : Host) (config : Config) (backend : Backend) : Action Unit :=
  match backend.unavailable? with
  | some failure => throw (.failure failure)
  | none => do
    let _ ← host.execute ink config
    pure ()

end OpTiming
