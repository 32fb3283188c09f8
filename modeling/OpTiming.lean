import OpTiming.Accelerator.Device
import OpTiming.Accelerator.Library
import OpTiming.Accelerator.Program
import OpTiming.Accelerator.Range
import OpTiming.Accelerator.Status
import OpTiming.Accelerator.Workload
import OpTiming.Backend
import OpTiming.Bench
import OpTiming.Capability
import OpTiming.Catalog
import OpTiming.Clock
import OpTiming.CommandLine
import OpTiming.Config
import OpTiming.Copy
import OpTiming.Decimal.Binary
import OpTiming.Decimal.Fixed
import OpTiming.Decimal.Shortest
import OpTiming.Detection.Arm
import OpTiming.Detection.X86
import OpTiming.Failure
import OpTiming.Fault
import OpTiming.FeatureSet
import OpTiming.Files
import OpTiming.Host
import OpTiming.Json.EncodingError
import OpTiming.Json.Form
import OpTiming.Json.Literal
import OpTiming.Json.Printer
import OpTiming.Json.Text
import OpTiming.Json.Token
import OpTiming.Json.Value
import OpTiming.Main
import OpTiming.Measurement
import OpTiming.OutputFormat
import OpTiming.Preflight.Checks
import OpTiming.Preflight.CpuList
import OpTiming.Preflight.CpuTimes
import OpTiming.Preflight.Warning
import OpTiming.Probe
import OpTiming.Probe.Aarch64
import OpTiming.Probe.Armv7
import OpTiming.Probe.Row
import OpTiming.Probe.Scratch
import OpTiming.Probe.Show
import OpTiming.Probe.X86
import OpTiming.Runner
import OpTiming.Sink
import OpTiming.SystemError
import OpTiming.Terminal
import OpTiming.Text.Blank
import OpTiming.Text.CaseTable
import OpTiming.Text.HiddenTable
import OpTiming.Text.Lowercase
import OpTiming.Text.Numeral
import OpTiming.Text.Quoted
import OpTiming.Proofs.Action
import OpTiming.Proofs.Text.Blank
import OpTiming.Proofs.Capability
import OpTiming.Proofs.Config
import OpTiming.Proofs.Arguments
import OpTiming.Proofs.CommandLine
import OpTiming.Proofs.Fault
import OpTiming.Proofs.Files
import OpTiming.Proofs.Numeral
import OpTiming.Proofs.Decimal.Shortest
import OpTiming.Proofs.Json.Text
import OpTiming.Proofs.Json.Literal
import OpTiming.Proofs.Json.Token
import OpTiming.Proofs.Json.Value
import OpTiming.Proofs.Json.Form
import OpTiming.Proofs.ControlFree
import OpTiming.Proofs.FeatureSet
import OpTiming.Proofs.Measurement
import OpTiming.Proofs.RoundTrip
import OpTiming.Proofs.Runner
import OpTiming.Proofs.Sink
import OpTiming.Proofs.Probe.Counts
import OpTiming.Proofs.Preflight.Timer
import OpTiming.Proofs.Preflight.CpuTimes
import OpTiming.Proofs.Preflight.Checks
import OpTiming.Proofs.Alike
import OpTiming.Proofs.Attribution
import OpTiming.Proofs.Catalog.Plan
import OpTiming.Proofs.Catalog.Schedule
import OpTiming.Proofs.Catalog.Effects
import OpTiming.Proofs.Catalog.Table
import OpTiming.Proofs.Catalog.Output
import OpTiming.Proofs.Catalog.Report
import OpTiming.Proofs.Catalog.Alike
import OpTiming.Proofs.Stream
import OpTiming.Proofs.Threshold
import OpTiming.Proofs.CutSet
import OpTiming.Proofs.Detection.X86
import OpTiming.Proofs.Detection.Bits
import OpTiming.Proofs.Host.Frames
import OpTiming.Proofs.Host.Gating
import OpTiming.Proofs.Host.Preflight
import OpTiming.Proofs.Host.Introduction
import OpTiming.Proofs.Host.Output
import OpTiming.Proofs.Host.Diagnostics
import OpTiming.Proofs.Accelerator.Canonical
import OpTiming.Proofs.Accelerator.Range
import OpTiming.Proofs.Accelerator.Division
import OpTiming.Proofs.Catalog.Monotone
import OpTiming.Proofs.Accelerator.Size
import OpTiming.Proofs.Accelerator.Streaming
import OpTiming.Proofs.Preflight.CpuList
import OpTiming.Proofs.Preflight.Isolation
import OpTiming.Proofs.Environment
import OpTiming.Proofs.Preflight.BusyShare
import OpTiming.Proofs.Accelerator.Extensions
import OpTiming.Proofs.Accelerator.Library
import OpTiming.Proofs.Stopwatch
import OpTiming.Proofs.Resolution
