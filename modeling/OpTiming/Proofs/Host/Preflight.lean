import OpTiming.Proofs.Host.Frames
import OpTiming.Proofs.Preflight.Checks

/-!
# How the checks before a run end

Warnings inform and end nothing, so the checks before a run should give their findings whatever the host's
files hold.  They do, with a single exception: counters of a sibling that do not add up in 64 bits are met
by a fault and not by a warning, and the fault ends the run.

* **`preflight_outcome`** — for every host, core, number of iterations and state of the files: the checks
  give their findings if the counters add up; otherwise they stop, and so does a run that starts with them.
* **`preflight_of_full_counter`** — a file on which they stop.
-/

namespace OpTiming.Host

open OpTiming.Action
open OpTiming.Preflight (TimesOverflow)

variable {host : Host} {core runs : UInt64} {b : Bench}

lemma preflight_of_overflow (h : TimesOverflow core b.files) :
    ((host.preflight core runs).on b).1 = .error (.fault .addOverflow) := by
  have hchecks := (Preflight.coreChecks_outcome core b.files).1 h
  simp only [preflight, on_bind, on_inspect]
  rw [hchecks]
  rfl

lemma preflight_of_no_overflow (h : ¬ TimesOverflow core b.files) :
    ∃ findings, ((host.preflight core runs).on b).1 = .ok findings := by
  obtain ⟨found, hfound⟩ := (Preflight.coreChecks_outcome core b.files).2 h
  simp only [preflight, on_bind, on_inspect]
  rw [hfound]
  obtain ⟨resolution, hresolution⟩ :=
    on_clockResolution host { b with files := ((Preflight.coreChecks core).run b.files).2 }
  simp only [Except.mapError, hresolution, on_pure]
  exact ⟨_, rfl⟩

/-- A run that stops in its checks has done nothing that can be seen from outside. -/
lemma execute_of_overflow (ink : Ink) {config : Config} (h : TimesOverflow config.deviceId b.files) :
    ((host.execute ink config).on b).1 = .error (.fault .addOverflow) ∧
      ((host.execute ink config).on b).2.sink = b.sink := by
  have hstops : ((host.preflight config.deviceId config.runs).on b).1 = .error (.fault .addOverflow) :=
    preflight_of_overflow h
  obtain ⟨fault, files, hrun⟩ | ⟨findings, files, hrun⟩ :=
    preflight_cases host config.deviceId config.runs b
  · rw [hrun] at hstops
    cases hstops
    simp only [execute, on_bind, hrun, and_self]
  · rw [hrun] at hstops
    cases hstops

/-- **The checks before a run give their findings, unless counters do not add up.**  Where those of the
listed sibling do not, the checks stop with an overflow, and a run that starts with them ends there without
having written anything. -/
theorem preflight_outcome (host : Host) (core runs : UInt64) (b : Bench) :
    (¬ TimesOverflow core b.files → ∃ findings, ((host.preflight core runs).on b).1 = .ok findings) ∧
    (TimesOverflow core b.files → ((host.preflight core runs).on b).1 = .error (.fault .addOverflow)) ∧
    ∀ ink config, TimesOverflow config.deviceId b.files →
      ((host.execute ink config).on b).1 = .error (.fault .addOverflow) ∧
        ((host.execute ink config).on b).2.sink = b.sink :=
  ⟨preflight_of_no_overflow, preflight_of_overflow, fun ink _ h => execute_of_overflow ink h⟩

/-- Files on which processor 4 is the sibling of processor 0 and one of its counters is full. -/
def fullCounterFiles : Files :=
  .ofList [("/sys/devices/system/cpu/cpu0/topology/thread_siblings_list", [.gives (.text "0,4")]),
    ("/proc/stat", [.gives (.text "cpu4 18446744073709551615 1 0 0\n")])]

/-- **A full counter stops the checks.** -/
theorem preflight_of_full_counter :
    ((Host.least.preflight 0 80000000).on (.new (.ticking 0 1 1) (.new none none) fullCounterFiles)).1 =
      .error (.fault .addOverflow) := by
  have hlisted : fullCounterFiles.reading (Preflight.siblingsPath 0) = .text "0,4" := by decide +kernel
  have htimes : fullCounterFiles.reading Preflight.timesPath =
      .text "cpu4 18446744073709551615 1 0 0\n" := by decide +kernel
  have hother : Preflight.siblingIn? 0 (.text "0,4") = some 4 := by decide +kernel
  have hcounts : Preflight.CpuTimes.counts? "cpu4 18446744073709551615 1 0 0\n" 4 =
      some [18446744073709551615, 1, 0, 0] := by decide +kernel
  refine preflight_of_overflow ⟨4, hlisted ▸ hother, Or.inl ⟨_, htimes, _, hcounts, ?_⟩⟩
  exact ⟨by decide, by decide⟩

end OpTiming.Host
