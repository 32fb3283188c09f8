import OpTiming.Proofs.Catalog.Output
import OpTiming.Proofs.Host.Frames
import OpTiming.Proofs.Host.Introduction

/-!
# What a run on the host writes

The introduction and the results go to one sink, but only results are flushed.  So a sink that is full within
the introduction stops the run before anything is measured, and one with a bad flush holds the whole
introduction and the results up to that flush.

* **`after_introduction`** — a run without a fault stops within the introduction, or what remains of it is its
  catalog, which starts on a sink at which the introduction stands.
* **`output_of_run_on_host`** — all that a run can leave on a sink with limits.
-/

namespace OpTiming.Host

open OpTiming.Action OpTiming.Catalog

variable {host : Host} {config : Config} {capacity badFlush : Option Nat} {b : Bench}

/-- The lines about the host, as a run writes them that starts on a clock. -/
def hostLinesOn (host : Host) (config : Config) (c : Clock) : List String :=
  hostLines host.cores config.deviceId (host.readyOn c).1 config.format

/-- The results that a run gives which starts on a clock. -/
def timedOn (host : Host) (config : Config) (c : Clock) : List Timed :=
  results config.runs (plan (host.features config) config Probe.X86.catalog) (host.readyOn c).2

/-! ## The lines of the table -/

lemma plain_of_mem_catalog : ∀ family ∈ Probe.X86.catalog, ∀ probe ∈ family.probes, probe.Plain := by
  have hnames : ∀ family ∈ Probe.X86.catalog, ∀ probe ∈ family.probes,
      '\n' ∉ probe.name.toList ∧ probe.remark = none := by
    decide
  intro family hfamily probe hprobe
  obtain ⟨hname, hremark⟩ := hnames family hfamily probe hprobe
  refine ⟨hname, ?_⟩
  rw [hremark]
  exact nofun

lemma plain_of_mem_hostPlan (host : Host) (config : Config) :
    ∀ step ∈ plan (host.features config) config Probe.X86.catalog, step.Plain :=
  fun _ hstep => plain_of_mem_plan plain_of_mem_catalog hstep

lemma map_join_introductionOn (host : Host) (config : Config) (c : Clock) :
    (host.introductionOn config c).map String.join = host.hostLinesOn config c :=
  map_join_introduction ..

lemma oneLine_introductionOn (host : Host) (config : Config) (c : Clock) :
    ∀ line ∈ host.introductionOn config c, ∀ piece ∈ line, OneLine piece :=
  oneLine_introduction _ _ _ _

/-- No line holds a line feed, so the lines are what the text of them splits into. -/
lemma oneLine_of_mem (host : Host) (config : Config) (c : Clock) :
    ∀ line ∈ host.hostLinesOn config c ++ linesOf config.format (host.timedOn config c), OneLine line := by
  rw [List.forall_mem_append, ← map_join_introductionOn, List.forall_mem_map]
  exact ⟨fun line hline => .join (host.oneLine_introductionOn config c line hline),
    oneLine_of_mem_linesOf (plain_of_mem_hostPlan host config) _ _ _⟩

/-- In the format for programs every line is a record, of the host or of a result. -/
lemma isRecord_of_mem (host : Host) (hformat : config.format = .json) (c : Clock) :
    ∀ line ∈ host.hostLinesOn config c ++ linesOf config.format (host.timedOn config c), IsRecord line := by
  rw [hostLinesOn, hformat, List.forall_mem_append, linesOf, List.forall_mem_map]
  exact ⟨isRecord_hostLines _ _ _, fun t _ => isRecord_compact t.result.wellFormed_encode⟩

/-! ## After the introduction -/

/-- **The introduction stops a run or is followed by the catalog.**  A run without a fault on a sink with
limits that was not used before fails where the sink is full, before any call; or the introduction stands
there when the catalog starts. -/
lemma after_introduction (ink : Ink) (hsink : b.sink = .new capacity badFlush)
    (hfault : FaultFree ((host.execute ink config).on b).1) :
    (∃ n cause after, n < (host.hostLinesOn config b.clock).length ∧ capacity = some n ∧
        (host.execute ink config).on b = (.error (.failure (.output cause)), after) ∧
        after.sink.text = asLines ((host.hostLinesOn config b.clock).take n) ∧ after.calls = b.calls) ∨
      ∃ mid, (host.execute ink config).on b =
          (perform ink config (plan (host.features config) config Probe.X86.catalog)).on mid ∧
        mid.clock = (host.readyOn b.clock).2 ∧
        mid.sink.Stands capacity badFlush (host.hostLinesOn config b.clock) 0 := by
  rw [← map_join_introductionOn, List.length_map]
  simp only [execute_eq_prepare_run, run_eq_perform, on_bind] at hfault ⊢
  obtain ⟨fault, files, hprepare⟩ | ⟨ready, hclock, hready, hcalls, hstops, hgoes⟩ :=
    prepare_cases ink host config b
  · rw [hprepare] at hfault
    exact absurd rfl (hfault fault)
  · have hstands : ready.sink.Stands capacity badFlush [] 0 := by
      rw [hready, hsink]
      exact Sink.stands_new capacity badFlush
    obtain ⟨n, cause, sink, hn, hcapacity, hrun, hstands⟩ | ⟨sink, hrun, hstands⟩ :=
      writeLines_cases (host.oneLine_introductionOn config b.clock) hstands
    · rw [hstops _ _ hrun]
      rw [List.length_nil, Nat.zero_add] at hcapacity
      exact Or.inl ⟨n, cause, _, hn, hcapacity, rfl, hstands.text, hcalls⟩
    · obtain ⟨notes, hprepare⟩ := hgoes _ hrun
      rw [hprepare]
      exact Or.inr ⟨_, rfl, hclock, hstands⟩

/-! ## All that is written -/

/-- **What a run on the host writes to a sink with limits**, if it meets no fault.  The introduction and the
results that belong, one each and in table order, to the rows of the table that can run on what was detected below
the threshold make up the lines that are due; in the format for programs each of them is a record.

A sink with room for all of them takes them all, and nothing else.  One that is full within the introduction
holds just the lines before, and no body was called.  One with room whose bad flush is that of some result
holds the introduction and the results up to this one. -/
theorem output_of_run_on_host (ink : Ink) (host : Host) (config : Config) (b : Bench)
    (capacity badFlush : Option Nat) (hsink : b.sink = .new capacity badFlush) (hbad : badFlush ≠ some 0)
    (hfault : FaultFree ((host.execute ink config).on b).1) :
    let features := (FeatureSet.ofList (Detection.X86.detect host.processor)).restrict config.disabledFrom
    let due := runnable features Probe.X86.catalog
    let timed := host.timedOn config b.clock
    let about := host.hostLinesOn config b.clock
    let lines := about ++ linesOf config.format timed
    (∀ cap, features.supports cap = true ↔ cap ∈ Detection.X86.detect host.processor ∧
        ∀ t, config.disabledFrom = some t → cap.ordinal < t.ordinal) ∧
      List.Forall₂ (fun row t => Carries row.2 t.result) due timed ∧
      (config.format = .json → ∀ line ∈ lines, IsRecord line) ∧
      (((about.length + due.length : ℕ) : ℕ∞) ≤ limit capacity → (due.length : ℕ∞) < limit badFlush →
        ∃ report after, (host.execute ink config).on b = (.ok report, after) ∧ report.measured = timed ∧
          after.sink.text = asLines lines ∧
          after.sink.text.toList.splitOn '\n' = lines.map String.toList ++ [[]]) ∧
      (∀ n, capacity = some n → n < about.length →
        ∃ cause after, (host.execute ink config).on b = (.error (.failure (.output cause)), after) ∧
          after.sink.text = asLines (about.take n) ∧ after.calls = b.calls) ∧
      ∀ n, badFlush = some n → n ≤ due.length → ((about.length + n : ℕ) : ℕ∞) ≤ limit capacity →
        ∃ cause after, (host.execute ink config).on b = (.error (.failure (.output cause)), after) ∧
          after.sink.text = asLines (lines.take (about.length + n)) := by
  intro features due timed about lines
  have hcarry : List.Forall₂ (fun row t => Carries row.2 t.result) due timed :=
    results_carry (host.features config) config Probe.X86.catalog _
  have hlength : (linesOf config.format timed).length = due.length := by
    rw [linesOf, List.length_map, hcarry.length_eq]
  refine ⟨fun _ => FeatureSet.supports_restrict_ofList_iff, hcarry,
    fun hformat => isRecord_of_mem host hformat b.clock, ?_⟩
  obtain ⟨m, cause, after, hm, hcapacity, hrun, htext, hcalls⟩ | ⟨mid, hrun, hclock, hstands⟩ :=
    after_introduction ink hsink hfault
  · -- the sink is full within the introduction, so no limit leaves room for a result
    have hshort : ∀ n, ¬ ((about.length + n : ℕ) : ℕ∞) ≤ limit capacity := by
      intro n hroom
      have hle := le_limit_iff.mp hroom m hcapacity
      have hlt : m < about.length := hm
      omega
    refine ⟨fun hroom => absurd hroom (hshort _), ?_, fun n _ _ hroom => absurd hroom (hshort n)⟩
    intro n hn _
    have hmn : m = n := Option.some.inj (hcapacity.symm.trans hn)
    exact ⟨cause, after, hrun, hmn ▸ htext, hcalls⟩
  · -- the introduction stands there unflushed, so the catalog counts its flushes from zero
    rw [hrun] at hfault ⊢
    have hends := perform_ends (plain_of_mem_hostPlan host config) hstands hfault
    rw [hclock] at hends
    rcases hperform : (perform ink config (plan (host.features config) config Probe.X86.catalog)).on mid
      with ⟨outcome, after⟩
    rw [hperform] at hends
    refine ⟨?_, ?_, ?_⟩
    · intro hroom hflush
      rw [← hlength] at hroom hflush
      obtain ⟨report, rfl, htext, -⟩ := hends.ok_of_room hroom hflush
      refine ⟨report, after, rfl, ?_, htext, ?_⟩
      · rw [perform_eq_ok hperform, hclock]
        rfl
      · rw [htext]
        exact splitOn_asLines (host.oneLine_of_mem config b.clock)
    · intro n hn hlt
      have hle : about.length ≤ n := hstands.within n hn
      omega
    · rintro n rfl hdue hroom
      rw [← hlength] at hdue
      obtain ⟨cause, rfl, htext⟩ := hends.error_of_flush (fun hzero => hbad (by rw [hzero])) hdue hroom
      refine ⟨cause, after, rfl, ?_⟩
      rw [htext, List.take_length_add_append]
      rfl

/-- A bench of a run on the host: no file can be read, and the clock moves with every reading. -/
def sampleBench (capacity badFlush : Option Nat) : Bench :=
  .new (.ticking 0 5 1) (.new capacity badFlush) (.ofList [])

/-- On the least host a sink that takes two line feeds stops the run within the introduction, and one whose
second flush fails stops it after two results. -/
theorem output_of_least_host :
    (∃ cause after, (least.execute .plain {}).on (sampleBench (some 2) none) =
        (.error (.failure (.output cause)), after) ∧
      after.sink.text = asLines ((least.hostLinesOn {} (.ticking 0 5 1)).take 2) ∧ after.calls = #[]) ∧
    ∃ cause after, (least.execute .plain { format := .json }).on (sampleBench none (some 2)) =
        (.error (.failure (.output cause)), after) ∧
      after.sink.text = asLines ((least.hostLinesOn { format := .json } (.ticking 0 5 1) ++
        linesOf .json (least.timedOn { format := .json } (.ticking 0 5 1))).take 4) := by
  have hfull : FaultFree ((least.execute .plain {}).on (sampleBench (some 2) none)).1 := by
    decide +kernel
  have hflush : FaultFree ((least.execute .plain { format := .json }).on (sampleBench none (some 2))).1 := by
    decide +kernel
  have hdue : 2 ≤ (runnable (least.features { format := .json }) Probe.X86.catalog).length := by
    decide +kernel
  obtain ⟨-, -, -, -, hstops, -⟩ := output_of_run_on_host .plain least {} (sampleBench (some 2) none) _ _ rfl
    (by decide) hfull
  obtain ⟨-, -, -, -, -, hfails⟩ := output_of_run_on_host .plain least { format := .json }
    (sampleBench none (some 2)) _ _ rfl (by decide) hflush
  exact ⟨hstops 2 rfl (by decide), hfails 2 rfl hdue le_top⟩

end OpTiming.Host
