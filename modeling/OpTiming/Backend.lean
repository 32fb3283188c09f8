import OpTiming.Failure
import OpTiming.Json.Form
import OpTiming.Text.Blank

/-!
# Backends

Where probes run: on the host's own processor, or on an accelerator.  The accelerator's runtime is
not part of this build, so running there fails before anything is written.
-/

namespace OpTiming

/-- Where probes run. -/
inductive Backend
  /-- The processor of the host. -/
  | cpu
  /-- An attached accelerator. -/
  | openCl
  deriving DecidableEq, Repr

namespace Backend

def all : List Backend := [cpu, openCl]

/-- The backend that is used when none is named. -/
def default : Backend := cpu

/-- The name of a backend, as shown to people. -/
def name : Backend → String
  | cpu => "cpu"
  | openCl => "opencl"

/-- The name under which a backend is serialised. -/
def variant : Backend → String
  | cpu => "Cpu"
  | openCl => "OpenCl"

/-- Read the name of a backend; the case of ASCII letters does not matter, blanks do. -/
def parse (text : String) : Except Failure Backend :=
  match String.ofList (Text.lowerAscii text.toList) with
  | "cpu" => .ok cpu
  | "opencl" => .ok openCl
  | _ => .error (.invalidDevice text)

def decode (v : Json.Value) : Option Backend := Json.unitVariant? all variant v

instance : Json.Form Backend := ⟨fun backend => Json.variant backend.variant, decode⟩

/-- Why a backend cannot be used in this build, if it cannot. -/
def unavailable? : Backend → Option Failure
  | cpu => none
  | openCl => some (.backendDisabled "opencl")

end Backend

end OpTiming
