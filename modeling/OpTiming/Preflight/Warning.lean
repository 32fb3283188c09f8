import OpTiming.Decimal.Fixed
import OpTiming.Json.Form

/-!
# Warnings before a run

Every figure is time divided by operations, so whatever slows the processor down shows in it.  A
**`Warning`** is something found on the host before a run that may distort its figures.  No warning
stops a run.

* **`description`** — the warning in words.
* **`Findings`** — all warnings of a host, in the order of the checks.
-/

namespace OpTiming.Preflight

/-- Something about the host that may distort figures. -/
inductive Warning
  /-- The core's clock is controlled by something else than the performance governor. -/
  | governorNotPerformance (core : UInt64) (governor : String)
  /-- The core's governor cannot be read. -/
  | governorUnreadable (core : UInt64) (reason : String)
  /-- The core runs below its highest clock; both are in kilohertz. -/
  | clockBelowMax (core current max : UInt64)
  /-- Another logical processor of the same core was busy for some fraction of the time. -/
  | busySibling (core sibling : UInt64) (busy : Float)
  /-- The steps of the clock are large beside the operations of one body; both in nanoseconds. -/
  | coarseTimer (resolution perOperation : Float)

/-! ## Derived figures -/

/-- How many times slower than at its highest clock a core works.  One that shows no clock at all
counts as undisturbed. -/
def slowdown (current max : UInt64) : Float :=
  if current = 0 then 1.0 else max.toFloat / current.toFloat

namespace Warning

/-- The warning in words. -/
def description : Warning → String
  | governorNotPerformance core governor =>
    "core " ++ toString core ++ " uses the '" ++ governor ++
      "' governor, so its clock may change between probes. Set with: sudo cpupower -c " ++
      toString core ++ " frequency-set -g performance"
  | governorUnreadable core reason =>
    "could not read the governor of core " ++ toString core ++ ": " ++ reason
  | clockBelowMax core current max =>
    "core " ++ toString core ++ " is at " ++ toString (current / 1000) ++ " MHz of " ++
      toString (max / 1000) ++ " MHz; per-op ns may read up to " ++
      Decimal.fixed 2 (slowdown current max) ++ "x high"
  | busySibling core sibling busy =>
    "core " ++ toString core ++ " shares its ports with cpu " ++ toString sibling ++ ", which was " ++
      Decimal.fixed 0 (busy * 100.0) ++ "% busy; throughput figures will read low"
  | coarseTimer resolution perOperation =>
    "clock resolution is " ++ Decimal.fixed 0 resolution ++ " ns, up to " ++
      Decimal.fixed 3 perOperation ++ " ns of error per op at this --runs; raise --runs"

/-! ## As records -/

def encode : Warning → Json.Value
  | governorNotPerformance core governor =>
    Json.variantOf "GovernorNotPerformance" <| Json.record
      [("core", Json.ofNat core.toNat), ("governor", Json.ofString governor)]
  | governorUnreadable core reason =>
    Json.variantOf "GovernorUnreadable" <| Json.record
      [("core", Json.ofNat core.toNat), ("reason", Json.ofString reason)]
  | clockBelowMax core current max =>
    Json.variantOf "ClockBelowMax" <| Json.record
      [("core", Json.ofNat core.toNat), ("current_khz", Json.ofNat current.toNat),
       ("max_khz", Json.ofNat max.toNat)]
  | busySibling core sibling busy =>
    Json.variantOf "BusySibling" <| Json.record
      [("core", Json.ofNat core.toNat), ("sibling", Json.ofNat sibling.toNat), ("busy", Json.ofFloat busy)]
  | coarseTimer resolution perOperation =>
    Json.variantOf "CoarseTimer" <| Json.record
      [("resolution_ns", Json.ofFloat resolution), ("per_op_error_ns", Json.ofFloat perOperation)]

/-- Read the contents of a warning of some name. -/
def decodeContents (contents : Json.Value) : String → Option Warning
  | "GovernorNotPerformance" =>
    match Json.fields? ["core", "governor"] contents with
    | some [core, governor] => do
      return governorNotPerformance (← Json.toUInt64? (← core)) (← Json.toString? (← governor))
    | _ => none
  | "GovernorUnreadable" =>
    match Json.fields? ["core", "reason"] contents with
    | some [core, reason] => do
      return governorUnreadable (← Json.toUInt64? (← core)) (← Json.toString? (← reason))
    | _ => none
  | "ClockBelowMax" =>
    match Json.fields? ["core", "current_khz", "max_khz"] contents with
    | some [core, current, max] => do
      return clockBelowMax (← Json.toUInt64? (← core)) (← Json.toUInt64? (← current))
        (← Json.toUInt64? (← max))
    | _ => none
  | "BusySibling" =>
    match Json.fields? ["core", "sibling", "busy"] contents with
    | some [core, sibling, busy] => do
      return busySibling (← Json.toUInt64? (← core)) (← Json.toUInt64? (← sibling))
        (← Json.toFloat? (← busy))
    | _ => none
  | "CoarseTimer" =>
    match Json.fields? ["resolution_ns", "per_op_error_ns"] contents with
    | some [resolution, perOperation] => do
      return coarseTimer (← Json.toFloat? (← resolution)) (← Json.toFloat? (← perOperation))
    | _ => none
  | _ => none

def decode (v : Json.Value) : Option Warning :=
  match Json.variant? v with
  | some (name, some contents) => decodeContents contents name
  | _ => none

instance : Json.Form Warning := ⟨encode, decode⟩

end Warning

/-! ## All warnings of a host -/

/-- The warnings of a host, in the order of the checks. -/
structure Findings where
  warnings : List Warning

namespace Findings

def any (f : Findings) : Bool := !f.warnings.isEmpty

def descriptions (f : Findings) : List String := f.warnings.map Warning.description

def encode (f : Findings) : Json.Value :=
  Json.record [("warnings", .array (f.warnings.map Warning.encode))]

def decode (v : Json.Value) : Option Findings :=
  match Json.fields? ["warnings"] v with
  | some [some (.array items)] => (items.mapM Warning.decode).map Findings.mk
  | _ => none

instance : Json.Form Findings := ⟨encode, decode⟩

end Findings

end OpTiming.Preflight
