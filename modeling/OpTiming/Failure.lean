import OpTiming.Accelerator.Status
import OpTiming.Fault
import OpTiming.Json.EncodingError

/-!
# Failures

Everything that can end a run before its time, by cause.  A **`Failure`** is foreseen: it is
reported to whoever started the run, in the words of `message`, and some failures carry the words
of an inner cause (`cause?`).  A run may also meet a `Fault`; **`Stop`** is either.
-/

namespace OpTiming

/-- A foreseen reason why a run cannot go on. -/
inductive Failure
  /-- The named device is none of the known ones. -/
  | invalidDevice (name : String)
  /-- There are only `count` devices, and the one at `index` was asked for. -/
  | invalidDeviceIndex (index count : Nat)
  /-- No platform offers a suitable accelerator. -/
  | noAccelerator
  /-- The named backend is not part of this build. -/
  | backendDisabled (name : String)
  /-- A call to the accelerator runtime gave a status code other than success. -/
  | runtimeCall (call file : String) (line : Nat) (code : Int)
  /-- A program for the accelerator does not build. -/
  | build (program options log : String)
  /-- There is no program of that name. -/
  | unknownProgram (name : String)
  /-- None of the libraries that were tried can be loaded. -/
  | libraryNotFound (searched : List String)
  /-- A component beyond the dimension of a range was asked for. -/
  | rangeIndex (index dimension : Nat)
  /-- Only ranges of one dimension can be dispatched. -/
  | unsupportedDimension (dimension : Nat)
  /-- The text given for a setting does not denote a value of it. -/
  | invalidSetting (key value : String)
  /-- Writing results failed. -/
  | output (cause : String)
  /-- A result cannot be encoded. -/
  | encoding (cause : Json.EncodingError)
  deriving DecidableEq, Repr

namespace Failure

def message : Failure → String
  | invalidDevice name => "Invalid device: " ++ name
  | invalidDeviceIndex index count =>
    "Invalid device id: " ++ toString index ++ ", max size is " ++ toString count
  | noAccelerator => "no opencl platform exposes a GPU device"
  | backendDisabled name => name ++ " disabled at compile time"
  | runtimeCall call file line code =>
    "opencl error " ++ toString code ++ ": " ++ Accelerator.Status.name code ++ " (" ++ call ++
      " at " ++ file ++ ":" ++ toString line ++ ")"
  | build program options log =>
    "build program error: src=" ++ program ++ " opt=" ++ options ++ " errno=" ++
      Accelerator.Status.name Accelerator.Status.buildProgramFailure ++ "\n" ++ log
  | unknownProgram name => "no embedded program named '" ++ name ++ "'"
  | libraryNotFound searched =>
    "can not find opencl, searched:" ++ String.join (searched.map (" " ++ ·))
  | rangeIndex index dimension =>
    "invalid index: " ++ toString index ++ " expected < " ++ toString dimension
  | unsupportedDimension dimension => "only support 1-dim ndrange, got: " ++ toString dimension
  | invalidSetting key value => "invalid value '" ++ value ++ "' for " ++ key
  | output cause => "output error: " ++ cause
  | encoding cause => "json encoding error: " ++ cause.text

/-- The words of the inner cause, where a failure has one. -/
def cause? : Failure → Option String
  | output cause => some cause
  | encoding cause => some cause.text
  | _ => none

end Failure

/-- Why a run ended early. -/
inductive Stop
  /-- A computation could not go on. -/
  | fault (fault : Fault)
  /-- The run failed for a foreseen reason. -/
  | failure (failure : Failure)
  deriving DecidableEq, Repr

namespace Stop

def message : Stop → String
  | fault f => f.message
  | failure f => f.message

end Stop

end OpTiming
