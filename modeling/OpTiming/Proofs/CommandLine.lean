import Mathlib.Logic.Function.Basic
import OpTiming.Proofs.Arguments
import OpTiming.Proofs.Config

/-!
# Which layer decides

A run is put together from three layers: what the options say, what the environment says, and the
defaults.  Before it starts, four objections are looked for one after the other, and the first one ends
the program with status 1 and an empty output.

* **`firstObjection?`** — a device that nobody knows; the first variable that stands for no value, also where
  an option takes its place; an unreadable `--disable-from`; a device this build does without.
* **`layered`** — the settings, field by field.
* **`answer_layers`** — arguments ask for a run iff they spell options that are all different, and these are the
  options of the run; the program then gives the objection, or starts with the layered settings.  The name of a
  capability is good as an option exactly when it is good as a variable, and leads to the same run.
-/

namespace OpTiming.CommandLine

open Function (update)

variable {lookup : String → Option String} {o : Options}

/-! ## Objections -/

/-- A device as it is compared: the case of ASCII letters does not matter. -/
def deviceWord (name : String) : String := String.ofList (Text.lowerAscii name.toList)

/-- What is said of a setting whose text stands for no value. -/
def refusal (key text : String) : Answer :=
  .finished 1 "" ("error: invalid value '" ++ text ++ "' for " ++ key ++ "\n")

/-- The objection to a device that is neither of the two known ones. -/
def unknownDevice? (o : Options) : Option Answer :=
  (o.device.filter fun name => deviceWord name ∉ ["cpu", "opencl"]).map fun name =>
    .finished 1 "" ("Invalid device: " ++ name ++ "\nUsage: peakprobe [OPTIONS]\n")

/-- The option for the threshold, if it names no capability. -/
def unreadableThreshold? (o : Options) : Option (String × String) :=
  Config.refused? Capability.parse? "--disable-from" o.disableFrom

/-- The objection to the device that is not part of this build. -/
def missingDevice? (o : Options) : Option Answer :=
  (o.device.filter fun name => deviceWord name = "opencl").map fun _ =>
    .finished 1 "" "error: opencl disabled at compile time\n"

/-- The first objection to a run. -/
def firstObjection? (lookup : String → Option String) (o : Options) : Option Answer :=
  (unknownDevice? o).or <|
  ((Config.invalidVariable? lookup).map fun (key, text) => refusal key text).or <|
  ((unreadableThreshold? o).map fun (key, text) => refusal key text).or <|
  missingDevice? o

/-- The settings of a run, field by field. -/
def layered (lookup : String → Option String) (o : Options) : Config where
  runs := o.runs.getD (((lookup "PEAKPROBE_RUNS").bind Config.runsOf?).getD 80000000)
  warmup := ((lookup "PEAKPROBE_WARMUP").bind Config.warmupOf?).getD 10
  disabledFrom := (o.disableFrom.or (lookup "PEAKPROBE_DISABLE_FROM")).bind Capability.parse?
  verbose := o.verbose || ((lookup "PEAKPROBE_VERBOSE").bind Config.flagOf?).getD false
  format := if o.json then .json else .text
  deviceId := o.deviceId.getD 0
  libraryPath := (lookup "LIBOPENCL_PATH").filter (· ≠ "")

@[simp] lemma unlines_singleton (line : String) : unlines [line] = line ++ "\n" := by
  simp [unlines]

@[simp] lemma unlines_pair (first second : String) :
    unlines [first, second] = first ++ ("\n" ++ (second ++ "\n")) := by
  simp [unlines, String.append_assoc]

lemma failed_invalid (key text : String) : failed (Config.invalid key text) = refusal key text := by
  have hwords : "error: " ++ "invalid value '" = "error: invalid value '" := rfl
  have hmessage : (Config.invalid key text).message = "invalid value '" ++ text ++ "' for " ++ key := rfl
  rw [failed, unlines_singleton, hmessage, refusal, ← hwords]
  simp only [String.append_assoc]

lemma failed_disabled :
    failed (.backendDisabled "opencl") = .finished 1 "" "error: opencl disabled at compile time\n" := rfl

lemma unknown_message (name : String) :
    unlines [(Failure.invalidDevice name).message, usage .plain] =
      "Invalid device: " ++ name ++ "\nUsage: peakprobe [OPTIONS]\n" := by
  have husage : "\n" ++ (usage .plain ++ "\n") = "\nUsage: peakprobe [OPTIONS]\n" := rfl
  have hmessage : (Failure.invalidDevice name).message = "Invalid device: " ++ name := rfl
  rw [unlines_pair, hmessage, husage]

/-! ## Settings -/

lemma readThreshold_eq (text : String) :
    readThreshold text =
      (Capability.parse? text).elim (.error (Config.invalid "--disable-from" text)) .ok := by
  rw [readThreshold]
  cases Capability.parse? text with
  | none => rfl
  | some cap => rfl

/-- **The settings** are refused for a variable, then for the threshold, and otherwise layered. -/
theorem settings_eq (lookup : String → Option String) (o : Options) :
    settings lookup o =
      Config.unlessRefused ((Config.invalidVariable? lookup).or (unreadableThreshold? o))
        (layered lookup o) := by
  rw [settings, Config.ofEnvironment_eq]
  refine Config.unlessRefused_bind ?_
  rw [unreadableThreshold?]
  simp only [layered]
  cases o.disableFrom with
  | none => rfl
  | some text =>
    simp only [readThreshold_eq, Option.some_or, Option.bind_some]
    cases hname : Capability.parse? text with
    | none => rw [Config.refused?_of_none hname]; rfl
    | some cap => rw [Config.refused?_of_some hname]; rfl

/-! ## Devices -/

lemma parse_of_cpu {name : String} (h : deviceWord name = "cpu") : Backend.parse name = .ok .cpu := by
  rw [deviceWord] at h
  simp only [Backend.parse, h]

lemma parse_of_openCl {name : String} (h : deviceWord name = "opencl") :
    Backend.parse name = .ok .openCl := by
  rw [deviceWord] at h
  simp only [Backend.parse, h]

lemma parse_of_unknown {name : String} (h : deviceWord name ∉ ["cpu", "opencl"]) :
    Backend.parse name = .error (.invalidDevice name) := by
  simp only [List.mem_cons, List.not_mem_nil, or_false, not_or] at h
  rw [Backend.parse]
  split
  · exact absurd ‹_› h.1
  · exact absurd ‹_› h.2
  · rfl

/-- A device is unknown, or it names a backend that may or may not be part of this build. -/
lemma backend_cases (o : Options) :
    (∃ name, backend o = .error (.invalidDevice name) ∧
        unknownDevice? o =
          some (.finished 1 "" ("Invalid device: " ++ name ++ "\nUsage: peakprobe [OPTIONS]\n"))) ∨
      ∃ b, backend o = .ok b ∧ unknownDevice? o = none ∧ missingDevice? o = b.unavailable?.map failed := by
  rw [backend, unknownDevice?, missingDevice?]
  cases o.device with
  | none => exact .inr ⟨.cpu, rfl, rfl, rfl⟩
  | some name =>
    by_cases hcpu : deviceWord name = "cpu"
    · exact .inr ⟨.cpu, parse_of_cpu hcpu, by simp [hcpu], by simp [hcpu, Backend.unavailable?]⟩
    by_cases hopenCl : deviceWord name = "opencl"
    · exact .inr ⟨.openCl, parse_of_openCl hopenCl, by simp [hopenCl],
        by simp [hopenCl, Backend.unavailable?, failed_disabled]⟩
    · have hunknown : deviceWord name ∉ ["cpu", "opencl"] := by simp [hcpu, hopenCl]
      exact .inl ⟨name, parse_of_unknown hunknown, by simp [hcpu, hopenCl]⟩

/-- **A run** is answered by the first objection to it, and starts with the layered settings otherwise. -/
theorem answerRun_eq (lookup : String → Option String) (o : Options) :
    answerRun lookup o = (firstObjection? lookup o).getD (.start (layered lookup o)) := by
  rw [answerRun, firstObjection?]
  obtain ⟨name, hbackend, hunknown⟩ | ⟨b, hbackend, hunknown, hmissing⟩ := backend_cases o
  · simp only [hbackend, hunknown, unknown_message, Option.some_or, Option.getD_some]
  · simp only [hbackend, hunknown, hmissing, settings_eq, Option.none_or]
    cases Config.invalidVariable? lookup with
    | some refused => exact failed_invalid refused.1 refused.2
    | none =>
      cases unreadableThreshold? o with
      | some refused => exact failed_invalid refused.1 refused.2
      | none =>
        cases b.unavailable? with
        | some failure => rfl
        | none => rfl

/-- An objection ends the program with status 1, and nothing is put out. -/
lemma finished_of_firstObjection? {a : Answer} (h : firstObjection? lookup o = some a) :
    ∃ notes, a = .finished 1 "" notes := by
  simp only [firstObjection?, Option.or_eq_some_iff, Option.map_eq_some_iff, unknownDevice?,
    missingDevice?] at h
  obtain ⟨_, _, rfl⟩ | ⟨_, ⟨_, _, rfl⟩ | ⟨_, ⟨_, _, rfl⟩ | ⟨_, _, _, rfl⟩⟩⟩ := h
  · exact ⟨_, rfl⟩
  · exact ⟨_, rfl⟩
  · exact ⟨_, rfl⟩
  · exact ⟨_, rfl⟩

lemma answerRun_eq_start_iff {config : Config} :
    answerRun lookup o = .start config ↔ firstObjection? lookup o = none ∧ layered lookup o = config := by
  rw [answerRun_eq]
  cases hobjection : firstObjection? lookup o with
  | none => simp
  | some a =>
    obtain ⟨notes, rfl⟩ := finished_of_firstObjection? hobjection
    simp

/-! ## A threshold as an option and as a variable -/

lemma readThreshold_eq_ok_iff {text : String} {cap : Capability} :
    readThreshold text = .ok cap ↔ Config.readCapability "PEAKPROBE_DISABLE_FROM" text = .ok cap := by
  rw [readThreshold_eq, Config.reads_readCapability]
  cases Capability.parse? text with
  | none => simp
  | some cap => rfl

lemma invalidVariable?_update_eq_none_iff (given : Option String) :
    Config.invalidVariable? (update lookup "PEAKPROBE_DISABLE_FROM" given) = none ↔
      Config.invalidVariable? (update lookup "PEAKPROBE_DISABLE_FROM" none) = none ∧
        Config.refused? Capability.parse? "PEAKPROBE_DISABLE_FROM" given = none := by
  simp only [Config.invalidVariable?, Option.or_eq_none_iff, Function.update_self, Config.refused?_none,
    true_and, ne_eq, String.reduceEq, not_false_eq_true, Function.update_of_ne]
  constructor
  · intro ⟨hruns, hwarmup, hthreshold, hverbose⟩
    exact ⟨⟨hruns, hwarmup, hverbose⟩, hthreshold⟩
  · intro ⟨⟨hruns, hwarmup, hverbose⟩, hthreshold⟩
    exact ⟨hruns, hwarmup, hthreshold, hverbose⟩

/-- Where nothing else gives a threshold, the option does with a text what the variable does with it. -/
lemma answerRun_threshold_iff (hgiven : o.disableFrom = none) (text : String) (config : Config) :
    answerRun (update lookup "PEAKPROBE_DISABLE_FROM" none) (o.add (.disableFrom text)) = .start config ↔
      answerRun (update lookup "PEAKPROBE_DISABLE_FROM" (some text)) o = .start config := by
  have hlayered : layered (update lookup "PEAKPROBE_DISABLE_FROM" none) (o.add (.disableFrom text)) =
      layered (update lookup "PEAKPROBE_DISABLE_FROM" (some text)) o := by
    simp only [layered, Options.add, hgiven, Option.some_or, Option.none_or, Function.update_self,
      ne_eq, String.reduceEq, not_false_eq_true, Function.update_of_ne]
    rfl
  have hnothing : unreadableThreshold? o = none := by
    rw [unreadableThreshold?, hgiven, Config.refused?_none]
  have hthreshold : unreadableThreshold? (o.add (.disableFrom text)) = none ↔
      Config.refused? Capability.parse? "PEAKPROBE_DISABLE_FROM" (some text) = none :=
    Config.refused?_eq_none_iff_of_keys _ _ _ _
  have hobjections :
      firstObjection? (update lookup "PEAKPROBE_DISABLE_FROM" none) (o.add (.disableFrom text)) = none ↔
        firstObjection? (update lookup "PEAKPROBE_DISABLE_FROM" (some text)) o = none := by
    simp only [firstObjection?, Option.or_eq_none_iff, Option.map_eq_none_iff, hthreshold, hnothing,
      invalidVariable?_update_eq_none_iff (some text), true_and, and_assoc]
    rfl
  rw [answerRun_eq_start_iff, answerRun_eq_start_iff, hlayered, hobjections]

/-! ## The program -/

lemma answer_of_run {arguments : List String} (h : request arguments = .run o) :
    answer lookup arguments = answerRun lookup o := by
  rw [answer, h]

/-- **The layers of a run.**  Arguments ask for a run iff they spell options that are all different, each setting
with a value that means something, and these are the options of the run.  The program then gives the first objection
or starts with the layered settings, and it writes records iff `--json` is among the arguments.

If they give no threshold, then `--disable-from` can be put before them with every text behind an equals sign, and
with the text as an argument of its own unless that looks like an option.  The text is read as the variable reads
it: wherever it stands among the arguments, it starts a run iff the variable does, and the same one. -/
theorem answer_layers (lookup : String → Option String) :
    (∀ arguments o, request arguments = .run o ↔
      ∃ given, Asks none (arguments.map String.toList) given ∧ (given.map Given.switch).Nodup ∧
        ∀ g, o.Has g ↔ g ∈ given) ∧
      (∀ text cap, readThreshold text = .ok cap ↔
        Config.readCapability "PEAKPROBE_DISABLE_FROM" text = .ok cap) ∧
      ∀ arguments o, request arguments = .run o →
        answer lookup arguments = (firstObjection? lookup o).getD (.start (layered lookup o)) ∧
        ((layered lookup o).format = .json ↔ "--json" ∈ arguments) ∧
        (o.disableFrom = none → ∀ text,
          request (("--disable-from=" ++ text) :: arguments) = .run (o.add (.disableFrom text)) ∧
          (StandsAlone text.toList →
            request ("--disable-from" :: text :: arguments) = .run (o.add (.disableFrom text))) ∧
          ∀ arguments', request arguments' = .run (o.add (.disableFrom text)) →
            ∀ config, answer (update lookup "PEAKPROBE_DISABLE_FROM" none) arguments' = .start config ↔
              answer (update lookup "PEAKPROBE_DISABLE_FROM" (some text)) arguments = .start config) := by
  refine ⟨fun _ _ => request_eq_run_iff, fun _ _ => readThreshold_eq_ok_iff, fun arguments o harguments => ?_⟩
  refine ⟨?_, ?_, fun hgiven text => ⟨?_, fun hvalue => ?_, ?_⟩⟩
  · rw [answer_of_run harguments, answerRun_eq]
  · rw [← json_iff_mem harguments, layered]
    cases o.json <;> simp
  · exact request_threshold_attached harguments hgiven text
  · exact request_threshold_separate harguments hgiven hvalue
  · intro arguments' harguments' config
    rw [answer_of_run harguments', answer_of_run harguments]
    exact answerRun_threshold_iff hgiven text config

/-- An option takes the place of a variable, but not of one that stands for no value.  Letters share one argument,
and the last of them may have its value there. -/
theorem answer_layers_with_runs :
    request ["--runs", "7", "-d", "CPU"] = .run { device := some "CPU", runs := some 7 } ∧
      answer (fun key => [("PEAKPROBE_RUNS", "9"), ("PEAKPROBE_WARMUP", " +3 "),
            ("PEAKPROBE_VERBOSE", " On")].lookup key)
          ["--runs", "7", "-d", "CPU"] = .start { runs := 7, warmup := 3, verbose := true } ∧
      answer (fun key => [("PEAKPROBE_RUNS", "nine")].lookup key) ["--runs", "7", "-d", "CPU"] =
        .finished 1 "" "error: invalid value 'nine' for PEAKPROBE_RUNS\n" ∧
      request ["--disable-from", " AVX-512 ", "--runs", "7", "-d", "CPU"] =
        .run { device := some "CPU", runs := some 7, disableFrom := some " AVX-512 " } ∧
      answer (fun key => [("PEAKPROBE_DISABLE_FROM", "fma"), ("LIBOPENCL_PATH", ":")].lookup key)
          ["-vi3", "--json", "--"] =
        .start { disabledFrom := some .fma, verbose := true, format := .json, deviceId := 3,
                 libraryPath := some ":" } := by
  obtain ⟨hasks, -, hanswer⟩ := answer_layers fun _ => none
  have harguments : request ["--runs", "7", "-d", "CPU"] = .run { device := some "CPU", runs := some 7 } := by
    decide +kernel
  have hletters : request ["-vi3", "--json", "--"] =
      .run { deviceId := some 3, json := true, verbose := true } := by
    have hthree : Text.Numeral.Denotes ['3'] (3 : UInt64).toNat :=
      Text.Numeral.readUInt64?_eq_some_iff.mp (by decide +kernel)
    have hspelled : Asks none (["-vi3", "--json", "--"].map String.toList) [.verbose, .deviceId 3, .json] := by
      have hfirst : Spells "-vi3".toList [.verbose, .deviceId 3] none := by
        simpa using Spells.letters (List.cons_ne_nil _ _)
          (.verbose (.attached rfl (List.cons_ne_nil _ _) (by decide) (.deviceId hthree)))
      have hlast : Asks none ["--".toList] [] := by simpa using Asks.dashes
      exact .argument hfirst (.argument .json hlast)
    refine (hasks _ _).mpr ⟨_, hspelled, by decide, fun g => ?_⟩
    cases g <;> simp [Options.Has, eq_comm]
  refine ⟨harguments, ?_, ?_, ?_, ?_⟩
  · rw [((answer_layers _).2.2 _ _ harguments).1]
    decide +kernel
  · rw [((answer_layers _).2.2 _ _ harguments).1]
    decide +kernel
  · exact ((hanswer _ _ harguments).2.2 rfl " AVX-512 ").2.1 (.inr (by decide))
  · rw [((answer_layers _).2.2 _ _ hletters).1]
    decide +kernel

end OpTiming.CommandLine
