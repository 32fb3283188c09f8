import OpTiming.Proofs.Catalog.Alike
import OpTiming.Proofs.Host.Frames

/-!
# Diagnostics do not show in the results

What a run finds out about its host it only notes: which warnings the files give rise to, how fine the clock
is, whether it was pinned to its core.  So of two hosts that agree on their processor, on the number of cores
and on the copy bandwidth a run writes the same and gives the same, whatever else there is to be noted of
them, and whether or not it is verbose.

* **`preface_alike`**, **`prepare_alike`** — what comes before the catalog ends alike.
* **`diagnostics_do_not_show`** — and so do the runs.
-/

namespace OpTiming.Host

open OpTiming.Action

variable {b b' : Bench}

lemma writePieces_alike (pieces : List String) (h : b.Alike b') :
    EndAlike Eq ((writePieces pieces).on b) ((writePieces pieces).on b') := by
  induction pieces generalizing b b' with
  | nil => exact .ok rfl h
  | cons piece pieces ih => exact EndAlike.bind (EndAlike.write h (.same _)) fun _ _ c c' _ hc => ih hc

lemma writeLines_alike (lines : List (List String)) (h : b.Alike b') :
    EndAlike Eq ((writeLines lines).on b) ((writeLines lines).on b') := by
  induction lines generalizing b b' with
  | nil => exact .ok rfl h
  | cons line lines ih =>
      refine EndAlike.bind (writePieces_alike line h) fun _ _ c c' _ hc => ?_
      exact EndAlike.bind (EndAlike.write hc (.same .lineFeed)) fun _ _ d d' _ hd => ih hd

variable {host host' : Host} {config : Config} {verbose : Bool} {ink ink' : Ink}

/-- Before the first line there is nothing to be seen of a run but the copy bandwidth that it finds. -/
lemma preface_alike (h : b.Alike b') :
    EndAlike (fun x y => x = (host.readyOn b.clock).1 ∧ y = (host'.readyOn b'.clock).1)
      ((preface ink host config).on b) ((preface ink' host' { config with verbose }).on b') := by
  obtain ⟨fault, files, hrun⟩ | ⟨ready, hrun, -, hsink, hcalls⟩ := preface_cases ink host config b
  · rw [hrun]
    exact .faultLeft fault _ _
  obtain ⟨fault, files, hrun'⟩ | ⟨ready', hrun', -, hsink', hcalls'⟩ :=
    preface_cases ink' host' { config with verbose } b'
  · rw [hrun']
    exact .faultRight fault _ _
  · rw [hrun, hrun']
    refine .ok ⟨rfl, rfl⟩ ⟨?_, ?_⟩
    · rw [hsink, hsink']
      exact h.sink
    · rw [hcalls, hcalls', h.calls]

/-- What comes before the catalog ends alike on two hosts that are introduced alike. -/
lemma prepare_alike (h : b.Alike b')
    (hintroduction : host.introductionOn config b.clock = host'.introductionOn config b'.clock) :
    EndAlike Eq ((prepare ink host config).on b) ((prepare ink' host' { config with verbose }).on b') := by
  rw [prepare_eq_preface, prepare_eq_preface]
  refine EndAlike.bind (preface_alike h) ?_
  rintro x y c c' ⟨rfl, rfl⟩ hc
  have hlines := writeLines_alike (host'.introductionOn config b'.clock) hc
  rw [introductionOn, introductionOn] at hintroduction
  rw [hintroduction]
  refine EndAlike.bind hlines fun _ _ d d' _ hd => ?_
  simp only [on_bind, on_noteIf, on_noteAll]
  exact .ok rfl ⟨hd.sink, hd.calls⟩

/-- **Diagnostics do not show in the results.**  Take two hosts with the same number of cores and the same
processor, on which runs find the same copy bandwidth; in all else they may differ, and so may their files and
clocks, and the notes may be verbose on one of them.  If the sinks fail alike and neither run meets a fault, both
runs write the same up to the figures that depend on a clock, make the same calls and end alike: with the same
failure, or with alike results and the same skipped probes. -/
theorem diagnostics_do_not_show (ink ink' : Ink) (host host' : Host) (config : Config) (verbose : Bool)
    (b b' : Bench) (hcores : host.cores = host'.cores) (hprocessor : host.processor = host'.processor)
    (hbandwidth : (host.readyOn b.clock).1 = (host'.readyOn b'.clock).1) (hbench : b.Alike b')
    (hfault : FaultFree ((host.execute ink config).on b).1)
    (hfault' : FaultFree ((host'.execute ink' { config with verbose }).on b').1) :
    let run := (host.execute ink config).on b
    let run' := (host'.execute ink' { config with verbose }).on b'
    List.Forall₂ Chunk.Alike run.2.sink.chunks.toList run'.2.sink.chunks.toList ∧
      run.2.sink.maskedText = run'.2.sink.maskedText ∧ run.2.calls = run'.2.calls ∧
      ((∃ report report', run.1 = .ok report ∧ run'.1 = .ok report' ∧
          List.Forall₂ Timed.Alike report.measured report'.measured ∧ report.skipped = report'.skipped) ∨
        ∃ failure, run.1 = .error (.failure failure) ∧ run'.1 = .error (.failure failure)) := by
  intro run run'
  have hfeatures : host.features config = host'.features { config with verbose } := by
    rw [features, features, hprocessor]
  have hintroduction : host.introductionOn config b.clock = host'.introductionOn config b'.clock := by
    rw [introductionOn, introductionOn, hcores, hbandwidth]
  have halike : EndAlike Catalog.Report.Alike run run' := by
    show EndAlike _ ((host.execute ink config).on b) ((host'.execute ink' { config with verbose }).on b')
    rw [execute_eq_prepare_run, execute_eq_prepare_run, ← hfeatures]
    refine EndAlike.bind (prepare_alike hbench hintroduction) fun _ _ c c' _ hc => ?_
    exact Catalog.run_alike (host.features config) Probe.X86.catalog hc
  obtain ⟨hend, houtcome⟩ := halike.of_faultFree hfault hfault'
  refine ⟨hend.sink.chunks, hend.sink.maskedText_eq, hend.calls, ?_⟩
  obtain ⟨report, report', hrun, hrun', hreport⟩ | hfailure := houtcome
  · exact Or.inl ⟨report, report', hrun, hrun', hreport.measured, hreport.skipped⟩
  · exact Or.inr hfailure

/-- A host with nothing to be noted of it. -/
def quiet : Host := { least with resolution := some 1.0, bandwidth := some 12.5 }

/-- The same host with a coarse clock, to whose core a run cannot be pinned. -/
def disturbed : Host := { quiet with resolution := some 1e9, pinRefusal := some "Operation not permitted" }

/-- A bench without files. -/
def quietBench : Bench := .new (.ticking 0 5 1) (.new none (some 2)) (.ofList [])

/-- A bench with another clock, and with a file that shows a core in want of a better governor. -/
def disturbedBench : Bench :=
  .new (.ticking 7 30 2) (.new none (some 2))
    (.ofList [("/sys/devices/system/cpu/cpu0/cpufreq/scaling_governor", [.gives (.text "powersave\n")])])

/-- Settings of a short run. -/
def shortRun : Config := { runs := 1000, warmup := 2 }

/-- On the disturbed host a verbose run makes notes of all kinds; on the quiet one no note is made, and still
both write the same and make the same calls. -/
theorem diagnostics_of_disturbed_host :
    ((quiet.execute .plain shortRun).on quietBench).2.notes.size = 0 ∧
    4 < ((disturbed.execute .plain { shortRun with verbose := true }).on disturbedBench).2.notes.size ∧
    ((quiet.execute .plain shortRun).on quietBench).2.sink.maskedText =
      ((disturbed.execute .plain { shortRun with verbose := true }).on disturbedBench).2.sink.maskedText ∧
    ((quiet.execute .plain shortRun).on quietBench).2.calls =
      ((disturbed.execute .plain { shortRun with verbose := true }).on disturbedBench).2.calls := by
  have hbench : quietBench.Alike disturbedBench := ⟨Sink.alike_new none (some 2), rfl⟩
  have hbandwidth : (quiet.readyOn quietBench.clock).1 = (disturbed.readyOn disturbedBench.clock).1 := rfl
  obtain ⟨-, htext, hcalls, -⟩ := diagnostics_do_not_show .plain .plain quiet disturbed shortRun true quietBench
    disturbedBench rfl rfl hbandwidth hbench (by decide +kernel) (by decide +kernel)
  -- the verbose settings are written as a record update, which is unfolded before anything is evaluated
  dsimp only
  exact ⟨by decide +kernel, by decide +kernel, htext, hcalls⟩

end OpTiming.Host
