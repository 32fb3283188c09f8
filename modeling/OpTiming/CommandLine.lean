import OpTiming.Backend
import OpTiming.Config
import OpTiming.Terminal
import OpTiming.Text.Numeral

/-!
# The command line

What a command line and an environment ask for.

* **`Options`** — the options given, each at most once.
* **`Request`** — what a sequence of arguments asks for: help, the version, a run, or nothing that is
  understood.  Arguments are read from left to right, and the first one that asks for help or the
  version, or is wrong, decides.
* **`settings`** — the settings of a run.  Every setting comes from its option if that is given, else
  from the environment, else from the defaults; but a mistake in the environment is a mistake even
  where an option would take its place.
* **`answer`** — what the program does: it prints something and ends, or it starts a run.  Only the
  help text is emphasised, where the environment forces that.

A value stands behind its option, as the next argument or in the same one.  An argument that starts
with a dash is no value, unless it is nothing but a dash.
-/

namespace OpTiming.CommandLine

/-! ## Options -/

/-- The options given. -/
structure Options where
  device : Option String := none
  deviceId : Option UInt64 := none
  json : Bool := false
  verbose : Bool := false
  runs : Option UInt64 := none
  disableFrom : Option String := none
  deriving DecidableEq, Repr

/-- An option without a value. -/
inductive Flag
  | json
  | verbose
  | help
  | version
  deriving DecidableEq, Repr

/-- An option with a value. -/
inductive Setting
  | device
  | deviceId
  | runs
  | disableFrom
  deriving DecidableEq, Repr

/-- An option. -/
inductive Switch
  | flag (flag : Flag)
  | setting (setting : Setting)
  deriving DecidableEq, Repr

/-- The option of a long name. -/
def long? : String → Option Switch
  | "device" => some (.setting .device)
  | "dev-id" => some (.setting .deviceId)
  | "json" => some (.flag .json)
  | "verbose" => some (.flag .verbose)
  | "runs" => some (.setting .runs)
  | "disable-from" => some (.setting .disableFrom)
  | "help" => some (.flag .help)
  | "version" => some (.flag .version)
  | _ => none

/-- The option of a short name. -/
def short? : Char → Option Switch
  | 'd' => some (.setting .device)
  | 'i' => some (.setting .deviceId)
  | 'v' => some (.flag .verbose)
  | 'h' => some (.flag .help)
  | 'V' => some (.flag .version)
  | _ => none

/-- What a sequence of arguments asks for. -/
inductive Request
  | help
  | version
  | run (options : Options)
  | rejected
  deriving DecidableEq, Repr

/-- What an argument leads to: more options, or a decision. -/
abbrev Step := Except Request Options

/-- Take a flag; one that is given twice is rejected. -/
def setFlag (o : Options) : Flag → Step
  | .json => if o.json then .error .rejected else .ok { o with json := true }
  | .verbose => if o.verbose then .error .rejected else .ok { o with verbose := true }
  | .help => .error .help
  | .version => .error .version

/-- Take a value, unless the setting is given already. -/
def setOnce {α : Type} (given : Option α) (value : Option α) (store : α → Options) : Step :=
  match given, value with
  | none, some x => .ok (store x)
  | _, _ => .error .rejected

/-- Take a setting with its value; one that is given twice or cannot be read is rejected. -/
def setValue (o : Options) (value : List Char) : Setting → Step
  | .device => setOnce o.device (some (String.ofList value)) fun x => { o with device := some x }
  | .deviceId =>
    setOnce o.deviceId (Text.Numeral.readUInt64? value) fun x => { o with deviceId := some x }
  | .runs => setOnce o.runs (Text.Numeral.readUInt64? value) fun x => { o with runs := some x }
  | .disableFrom =>
    setOnce o.disableFrom (some (String.ofList value)) fun x => { o with disableFrom := some x }

/-! ## Arguments -/

/-- What is before and after the first equals sign, if there is one. -/
def splitEquals : List Char → List Char × Option (List Char)
  | [] => ([], none)
  | '=' :: cs => ([], some cs)
  | c :: cs => let (before, after) := splitEquals cs; (c :: before, after)

/-- Whether an argument can be the value of the option before it. -/
def isValue : List Char → Bool
  | ['-'] => true
  | '-' :: _ => false
  | _ => true

/-- The options and the setting that waits for the next argument, if there is one. -/
abbrev Pending := Options × Option Setting

/-- Read an argument that starts with two dashes. -/
def readLong (o : Options) (cs : List Char) : Except Request Pending :=
  let (name, attached) := splitEquals cs
  match long? (String.ofList name), attached with
  | some (.flag flag), none => (setFlag o flag).map (·, none)
  | some (.setting setting), some value => (setValue o value setting).map (·, none)
  | some (.setting setting), none => .ok (o, some setting)
  | some (.flag _), some _ | none, _ => .error .rejected

/-- Read the letters of an argument that starts with one dash.  What follows a setting in it is its
value, without the equals sign it may start with. -/
def readShort (o : Options) : List Char → Except Request Pending
  | [] => .ok (o, none)
  | c :: cs =>
    match short? c with
    | some (.flag flag) =>
      match setFlag o flag with
      | .ok o => readShort o cs
      | .error request => .error request
    | some (.setting setting) =>
      match cs with
      | [] => .ok (o, some setting)
      | '=' :: value => (setValue o value setting).map (·, none)
      | value => (setValue o value setting).map (·, none)
    | none => .error .rejected

def readArgument (o : Options) : List Char → Except Request Pending
  | '-' :: '-' :: c :: cs => readLong o (c :: cs)
  | '-' :: c :: cs => if c == '-' then .error .rejected else readShort o (c :: cs)
  | _ => .error .rejected

/-- Read the arguments from left to right.  Two dashes alone end the options, and nothing may follow
them. -/
def readArguments : Pending → List (List Char) → Request
  | (o, none), [] => .run o
  | (_, some _), [] => .rejected
  | (o, some setting), value :: rest =>
    if isValue value then
      match setValue o value setting with
      | .ok o => readArguments (o, none) rest
      | .error request => request
    else .rejected
  | (o, none), argument :: rest =>
    if argument = ['-', '-'] then if rest.isEmpty then .run o else .rejected
    else match readArgument o argument with
      | .ok pending => readArguments pending rest
      | .error request => request

/-- What a sequence of arguments asks for. -/
def request (arguments : List String) : Request :=
  readArguments ({}, none) (arguments.map String.toList)

/-! ## Settings -/

/-- Read the text of the option that names the threshold; it is taken as it stands. -/
def readThreshold (text : String) : Except Failure Capability :=
  match Capability.parse? text with
  | some cap => .ok cap
  | none => .error (Config.invalid "--disable-from" text)

/-- The settings of a run, given the environment. -/
def settings (lookup : String → Option String) (o : Options) : Except Failure Config := do
  let fromEnvironment ← Config.ofEnvironment lookup
  let disabledFrom ← match o.disableFrom with
    | none => .ok fromEnvironment.disabledFrom
    | some text => some <$> readThreshold text
  return { fromEnvironment with
    runs := o.runs.getD fromEnvironment.runs
    disabledFrom
    verbose := o.verbose || fromEnvironment.verbose
    format := if o.json then .json else .text
    deviceId := o.deviceId.getD 0 }

def backend (o : Options) : Except Failure Backend :=
  match o.device with
  | none => .ok .default
  | some name => Backend.parse name

/-! ## Answers -/

/-- How the program is used. -/
def usage (ink : Ink) : String :=
  ink.paint .boldUnderlined "Usage:" ++ " " ++ ink.paint .bold "peakprobe" ++ " [OPTIONS]"

/-- What the help text says of an option. -/
structure OptionHelp where
  short : Option Char
  long : String
  /-- What its value stands for, if it has one. -/
  value : Option String
  text : String

/-- How an option is spelled; one without a short name leaves its place empty. -/
def OptionHelp.spelling (ink : Ink) (h : OptionHelp) : String :=
  let short := match h.short with
    | some c => ink.paint .bold (String.ofList ['-', c]) ++ ", "
    | none => "    "
  short ++ ink.paint .bold ("--" ++ h.long) ++ (h.value.map fun v => " <" ++ v ++ ">").getD ""

/-- The options in the order of the help text. -/
def optionHelps : List OptionHelp :=
  [ ⟨some 'd', "device", some "DEVICE",
      "Backend to run: cpu or opencl (case-insensitive) [default: cpu]"⟩,
    ⟨some 'i', "dev-id", some "DEV_ID",
      "CPU core to pin to, or GPU index for the opencl backend [default: 0]"⟩,
    ⟨none, "json", none, "Emit one JSON object per result line"⟩,
    ⟨some 'v', "verbose", none, "Print family headers, detected features and skipped probes"⟩,
    ⟨none, "runs", some "RUNS", "Loop iterations per probe body (overrides PEAKPROBE_RUNS)"⟩,
    ⟨none, "disable-from", some "CAPABILITY",
      "Treat this capability and every later one as unsupported"⟩,
    ⟨some 'h', "help", none, "Print help"⟩,
    ⟨some 'V', "version", none, "Print version"⟩ ]

/-- The width of an option's spelling, emphasis aside. -/
def OptionHelp.width (h : OptionHelp) : Nat := (h.spelling .plain).length

/-- The width of the widest spelling. -/
def widestSpelling : Nat := (optionHelps.map OptionHelp.width).foldl max 0

/-- The line of an option; the texts stand below one another, two blanks after the widest spelling. -/
def OptionHelp.line (ink : Ink) (h : OptionHelp) : String :=
  "  " ++ h.spelling ink ++ String.ofList (List.replicate (widestSpelling - h.width + 2) ' ') ++ h.text

/-- The lines of the help text. -/
def helpLines (ink : Ink) : List String :=
  [ "Peak instruction throughput/latency and device bandwidth probe",
    "",
    usage ink,
    "",
    ink.paint .boldUnderlined "Options:" ] ++ optionHelps.map (·.line ink)

/-- The name and the version of the program. -/
def versionLine : String := "peakprobe 0.1.0"

/-- What the program does. -/
inductive Answer
  /-- It prints something and ends. -/
  | finished (status : Nat) (output notes : String)
  /-- The arguments are not understood. -/
  | rejected
  /-- It runs on the host. -/
  | start (config : Config)
  deriving DecidableEq, Repr

/-- Lines as a text; every line is ended. -/
def unlines (lines : List String) : String := String.join (lines.map (· ++ "\n"))

/-- The end of a program that failed. -/
def failed (failure : Failure) : Answer := .finished 1 "" (unlines ["error: " ++ failure.message])

/-- What the program does for the options of a run. -/
def answerRun (lookup : String → Option String) (o : Options) : Answer :=
  match backend o with
  | .error failure => .finished 1 "" (unlines [failure.message, usage .plain])
  | .ok backend =>
    match settings lookup o with
    | .error failure => failed failure
    | .ok config =>
      match backend.unavailable? with
      | some failure => failed failure
      | none => .start config

/-- What the program does for its arguments, given the environment. -/
def answer (lookup : String → Option String) (arguments : List String) : Answer :=
  match request arguments with
  | .help => .finished 0 (unlines (helpLines (.ofEnvironment lookup))) ""
  | .version => .finished 0 (unlines [versionLine]) ""
  | .rejected => .rejected
  | .run o => answerRun lookup o

end OpTiming.CommandLine
