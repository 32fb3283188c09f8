import OpTiming.Decimal.Fixed
import OpTiming.Json.Form
import OpTiming.OutputFormat

/-!
# Measurements

The figures of one probe.  A probe is timed twice: once with independent operands, which gives its
**throughput**, and once along a chain of dependent ones, which gives its **latency**.  Both are
nanoseconds per operation; the third figure, the rate, is the number of elementary operations per
nanosecond of throughput.

* **`perOperation`** — a time shared among operations; no operations make it exactly zero.
* **`Measurement`** — the figures under the name of their probe, with `ofTimings`.
* **`Timed`** — a measurement that is fresh from a clock, with the two counts it was made from.
* **`line`** — the line under which a measurement is reported.  Fresh figures change from run to run,
  so a line has a second spelling, `maskedLine`, in which every figure that depends on a clock
  reading is a `#`; a figure without operations does not depend on one and stays.
-/

namespace OpTiming

/-- The time of one operation; zero if none was executed. -/
def perOperation (elapsed : Float) (operations : UInt64) : Float :=
  if operations = 0 then 0.0 else elapsed / operations.toFloat

/-- Elementary operations per nanosecond: so many at a time, one group per so many nanoseconds. -/
def rate (width : UInt32) (throughputNs : Float) : Float :=
  if 0.0 < throughputNs then width.toFloat / throughputNs else 0.0

/-- The figures of one probe. -/
structure Measurement where
  name : String
  /-- Nanoseconds per operation with independent operands. -/
  throughputNs : Float
  /-- Elementary operations per nanosecond. -/
  gflops : Float
  /-- Nanoseconds per operation along a chain. -/
  latencyNs : Float
  /-- Elementary operations per operation. -/
  width : UInt32
  /-- A note carried over from the probe. -/
  remark : Option String

namespace Measurement

/-- The figures of a probe from the time each body took, in nanoseconds, and the number of
operations it reported. -/
def ofTimings (name : String) (width : UInt32) (remark : Option String)
    (throughput latency : Float × UInt64) : Measurement :=
  let throughputNs := perOperation throughput.1 throughput.2
  { name, throughputNs, gflops := rate width throughputNs
    latencyNs := perOperation latency.1 latency.2, width, remark }

/-! ## As a record -/

/-- The names of the fields, in written order. -/
def fieldNames : List String :=
  ["name", "throughput_ns", "gflops", "latency_ns", "width", "annotation"]

/-- Write a measurement; an absent note is left out. -/
def encode (m : Measurement) : Json.Value :=
  Json.record <|
    [ ("name", Json.ofString m.name),
      ("throughput_ns", Json.ofFloat m.throughputNs),
      ("gflops", Json.ofFloat m.gflops),
      ("latency_ns", Json.ofFloat m.latencyNs),
      ("width", Json.ofNat m.width.toNat) ] ++
    match m.remark with
    | none => []
    | some note => [("annotation", Json.ofString note)]

/-- Read a measurement; the note may be left out. -/
def decode (v : Json.Value) : Option Measurement :=
  match Json.fields? fieldNames v with
  | some [name, throughputNs, gflops, latencyNs, width, remark] => do
    return { name := ← Json.toString? (← name)
             throughputNs := ← Json.toFloat? (← throughputNs)
             gflops := ← Json.toFloat? (← gflops)
             latencyNs := ← Json.toFloat? (← latencyNs)
             width := ← Json.toUInt32? (← width)
             remark := ← Json.toOptionalString? remark }
  | _ => none

instance : Json.Form Measurement := ⟨encode, decode⟩

/-! ## As a line -/

/-- The line for people, from the texts of the three figures. -/
def textWith (name throughput gflops latency : String) (remark : Option String) : String :=
  name ++ " throughput: " ++ throughput ++ " ns " ++ gflops ++ " GFlops latency: " ++ latency ++ " ns" ++
    match remark with
    | none => ""
    | some note => " : " ++ note

/-- The line for programs, from the texts of the three figures. -/
def recordWith (name throughput gflops latency : String) (width : UInt32)
    (remark : Option String) : String :=
  "\x7b\"name\":" ++ String.ofList (Json.Text.quote name.toList) ++ ",\"throughput_ns\":" ++ throughput ++
    ",\"gflops\":" ++ gflops ++ ",\"latency_ns\":" ++ latency ++ ",\"width\":" ++ toString width.toNat ++
    (match remark with
     | none => ""
     | some note => ",\"annotation\":" ++ String.ofList (Json.Text.quote note.toList)) ++ "\x7d"

/-- A figure in a line for people. -/
def figure (x : Float) : String := Decimal.fixed 6 x

/-- A figure in a line for programs. -/
def jsonFigure (x : Float) : String := String.ofList (Json.ofFloat x).compact

def text (m : Measurement) : String :=
  textWith m.name (figure m.throughputNs) (figure m.gflops) (figure m.latencyNs) m.remark

/-- The line under which a measurement is reported. -/
def line (m : Measurement) : OutputFormat → String
  | .text => m.text
  | .json => Json.Form.compact m

end Measurement

/-! ## Fresh from a clock -/

/-- A measurement and the operations that its two bodies reported. -/
structure Timed where
  result : Measurement
  throughputOperations : UInt64
  latencyOperations : UInt64

namespace Timed

/-- A figure, masked unless no operations were behind it. -/
def mask (operations : UInt64) (shown : String) : String := if operations = 0 then shown else "#"

/-- The line of a fresh measurement, with a `#` for every figure that depends on the clock. -/
def maskedLine (t : Timed) (format : OutputFormat) : String :=
  let m := t.result
  let throughput := mask t.throughputOperations
  let latency := mask t.latencyOperations
  match format with
  | .text =>
    Measurement.textWith m.name (throughput (Measurement.figure m.throughputNs))
      (throughput (Measurement.figure m.gflops)) (latency (Measurement.figure m.latencyNs)) m.remark
  | .json =>
    Measurement.recordWith m.name (throughput (Measurement.jsonFigure m.throughputNs))
      (throughput (Measurement.jsonFigure m.gflops)) (latency (Measurement.jsonFigure m.latencyNs))
      m.width m.remark

end Timed

end OpTiming
