import OpTiming.Proofs.Catalog.Report
import OpTiming.Proofs.Pairwise

/-!
# Larger feature sets

What a run does with a row is decided by the row and the feature set alone, so two runs over one table are
compared row by row, whatever their clocks and sinks.  A larger set admits all rows that a smaller one
admits; then more rows are measured, fewer are skipped, and more families are warmed up.

* **`perform_on_working_sink`** — nothing but a body that does not return or a sink that fails stops a run.
* **`warmedUp`** — the families that are warmed up, with the calls of a run family by family
  (`schedule_eq_flatMap`).
* **`Accounts`** — what the report and the calls of a run amount to, in rows and families of the table.
* **`Grows`** — how two runs compare, one of which was given more.
* **`run_grows_with_support`** — runs over one table grow with what is supported, and so with the threshold.
-/

namespace OpTiming

/-- All bodies of a family return. -/
structure Family.Returns (family : Family) (runs : UInt64) : Prop where
  warmup : family.warmup.Returns runs
  probes : ∀ probe ∈ family.probes, Runner.Returns (probe, runs)

lemma Family.Orderly.returns {family : Family} {runs : UInt64} (h : family.Orderly runs) :
    family.Returns runs where
  warmup := h.warmup
  probes := fun probe hprobe => ⟨(h.probes probe hprobe).throughput, (h.probes probe hprobe).latency⟩

namespace Catalog

open OpTiming.Action

variable {ink : Ink} {features : FeatureSet} {config : Config} {families : List Family}

/-! ## Runs on a working sink -/

/-- The bodies that a step calls return. -/
def Step.Returns (runs : UInt64) : Step → Prop
  | announce _ => True
  | warm body => body.Returns runs
  | skip _ _ => True
  | measure probe => Runner.Returns (probe, runs)

lemma returns_of_mem_plan (hfamilies : ∀ family ∈ families, family.Returns config.runs) {step : Step}
    (h : step ∈ plan features config families) : step.Returns config.runs := by
  obtain ⟨family, hfamily, rfl | rfl | ⟨probe, hprobe, rfl⟩ | ⟨name, missing, rfl⟩⟩ := mem_plan_cases h
  · trivial
  · exact (hfamilies family hfamily).warmup
  · exact (hfamilies family hfamily).probes probe hprobe
  · trivial

/-- A step whose bodies return gives a report on a working sink, which goes on working. -/
lemma act_on_working_sink (ink : Ink) {step : Step} (hstep : step.Returns config.runs) {b : Bench}
    (h : b.sink.Works) :
    ∃ report after, (step.act ink config).on b = (.ok report, after) ∧ after.sink.Works := by
  cases step with
  | announce title => exact ⟨_, _, act_announce ink config title b, h⟩
  | skip name missing => exact ⟨_, _, act_skip ink config name missing b, h⟩
  | warm body =>
      obtain ⟨groups, hcount⟩ := hstep
      have hact := act_warm ink config body b
      rw [hcount] at hact
      exact ⟨_, _, hact, h⟩
  | measure probe =>
      obtain ⟨after, hrun, -, hworks, -⟩ := Runner.run_on_working_sink config.format hstep h
      refine ⟨⟨[probe.timed config.runs b.clock], []⟩, after, ?_, hworks⟩
      simp only [Step.act, on_bind, hrun, on_pure]

lemma perform_on_working_sink (ink : Ink) {steps : List Step}
    (hsteps : ∀ step ∈ steps, step.Returns config.runs) {b : Bench} (h : b.sink.Works) :
    ∃ report after, (perform ink config steps).on b = (.ok report, after) := by
  induction steps generalizing b with
  | nil => exact ⟨.empty, b, rfl⟩
  | cons step steps ih =>
      obtain ⟨hstep, hsteps⟩ := List.forall_mem_cons.mp hsteps
      obtain ⟨first, mid, hact, hworks⟩ := act_on_working_sink ink hstep h
      obtain ⟨rest, after, hrest⟩ := ih hsteps hworks
      exact ⟨_, after, perform_cons_eq_ok.mpr ⟨first, mid, rest, hact, hrest, rfl⟩⟩

/-! ## What a run amounts to -/

/-- The families that are warmed up. -/
def warmedUp (features : FeatureSet) (families : List Family) : List Family :=
  families.filter fun family => family.probes.any (family.admits features)

/-- Each family that is warmed up makes the calls of its warmups and of its admitted probes; the others
make none. -/
lemma schedule_eq_flatMap (features : FeatureSet) (config : Config) (families : List Family) :
    schedule features config families = (warmedUp features families).flatMap fun family =>
      warmupCalls config family ++ probeCalls features config family family.probes := by
  rw [schedule, warmedUp]
  induction families with
  | nil => rfl
  | cons family families ih =>
      rw [List.flatMap_cons, List.filter_cons, scheduleFamily, ih]
      cases family.probes.any (family.admits features) with
      | true => rw [if_pos rfl, if_pos rfl, List.flatMap_cons]
      | false => rw [if_neg Bool.false_ne_true, if_neg Bool.false_ne_true, List.nil_append]

/-- **What a run amounts to** that gave a report: the rows that it measured and those that it skipped, each
with what the report says about it, and the families that it warmed up and whose probes it called. -/
structure Accounts (features : FeatureSet) (config : Config) (families : List Family) (b after : Bench)
    (report : Report) : Prop where
  measured : List.Forall₂ (fun row timed => Carries row.2 timed.result) (runnable features families)
    report.measured
  skipped : List.Forall₂ (Skips features) (leftOut features families) report.skipped
  calls : after.calls.toList = b.calls.toList ++ (warmedUp features families).flatMap fun family =>
    warmupCalls config family ++ probeCalls features config family family.probes

/-- A table whose bodies return gives a report on a working sink. -/
lemma run_accounts (ink : Ink) (features : FeatureSet)
    (hreturns : ∀ family ∈ families, family.Returns config.runs) {b : Bench} (h : b.sink.Works) :
    ∃ report after, (run ink features config families).on b = (.ok report, after) ∧
      Accounts features config families b after report := by
  have hsteps : ∀ step ∈ plan features config families, step.Returns config.runs :=
    fun _ => returns_of_mem_plan hreturns
  obtain ⟨report, after, hrun⟩ := perform_on_working_sink ink hsteps h
  rw [run_eq_perform]
  refine ⟨report, after, hrun, ?_, ?_, ?_⟩
  · rw [perform_eq_ok hrun]
    exact results_carry features config families b.clock
  · rw [perform_eq_ok hrun, plan_entries, leftOut_eq_flatten]
    exact List.rel_flatten (List.forall₂_map_left_iff.mpr (groups_skip features families))
  · rw [perform_calls_of_ok hrun, plan_calls, schedule_eq_flatMap]

namespace Accounts

variable {b after : Bench} {report : Report}

lemma measured_names (h : Accounts features config families b after report) :
    (runnable features families).map (fun row => row.2.name) =
      report.measured.map fun timed => timed.result.name :=
  map_eq_map_of_forall₂ (fun _ _ hcarries => hcarries.name.symm) h.measured

lemma skipped_names (h : Accounts features config families b after report) :
    (leftOut features families).map (fun row => row.2.name) =
      report.skipped.map fun entry => entry.name :=
  map_eq_map_of_forall₂ (fun _ _ hskips => hskips.name.symm) h.skipped

end Accounts

/-! ## Two sets -/

variable {s s' : FeatureSet}

lemma runnable_sublist (h : s.Within s') (families : List Family) :
    (runnable s families).Sublist (runnable s' families) :=
  List.monotone_filter_right _ fun _ => Family.admits_of_within h

lemma leftOut_sublist (h : s.Within s') (families : List Family) :
    (leftOut s' families).Sublist (leftOut s families) := by
  refine List.monotone_filter_right _ fun row hrow => ?_
  rw [Bool.not_eq_true'] at hrow ⊢
  rw [Bool.eq_false_iff] at hrow ⊢
  exact fun hadmitted => hrow (Family.admits_of_within h hadmitted)

lemma warmedUp_sublist (h : s.Within s') (families : List Family) :
    (warmedUp s families).Sublist (warmedUp s' families) := by
  refine List.monotone_filter_right _ fun family hfamily => ?_
  rw [List.any_eq_true] at hfamily ⊢
  obtain ⟨probe, hprobe, hadmits⟩ := hfamily
  exact ⟨probe, hprobe, Family.admits_of_within h hadmits⟩

variable (ink config families) (b b' : Bench)

/-- **How two runs over one table compare**, the second of which was given the larger set.  Both give a
report; more rows are measured, fewer are skipped, and more families are warmed up, always in the order of
the table. -/
def Grows (s s' : FeatureSet) : Prop :=
  ∃ report after report' after',
    (run ink s config families).on b = (.ok report, after) ∧
    (run ink s' config families).on b' = (.ok report', after') ∧
    Accounts s config families b after report ∧
    Accounts s' config families b' after' report' ∧
    (runnable s families).Sublist (runnable s' families) ∧
    (leftOut s' families).Sublist (leftOut s families) ∧
    (warmedUp s families).Sublist (warmedUp s' families) ∧
    (report.measured.map fun timed => timed.result.name).Sublist
      (report'.measured.map fun timed => timed.result.name) ∧
    (report'.skipped.map fun entry => entry.name).Sublist (report.skipped.map fun entry => entry.name)

variable {ink config families b b'}

lemma grows_of_within (hreturns : ∀ family ∈ families, family.Returns config.runs)
    (hsink : b.sink.Works) (hsink' : b'.sink.Works) (h : s.Within s') :
    Grows ink config families b b' s s' := by
  obtain ⟨report, after, hrun, haccounts⟩ := run_accounts ink s hreturns hsink
  obtain ⟨report', after', hrun', haccounts'⟩ := run_accounts ink s' hreturns hsink'
  refine ⟨report, after, report', after', hrun, hrun', haccounts, haccounts', runnable_sublist h families,
    leftOut_sublist h families, warmedUp_sublist h families, ?_, ?_⟩
  · rw [← haccounts.measured_names, ← haccounts'.measured_names]
    exact (runnable_sublist h families).map _
  · rw [← haccounts.skipped_names, ← haccounts'.skipped_names]
    exact (leftOut_sublist h families).map _

/-- **Runs grow with what is supported.**  If all bodies of a table return and the sinks take what they are
given, two runs under sets of which one supports all that the other one supports compare as the sets do.  In
particular a run grows with the threshold under which the findings are used, and is largest without one. -/
theorem run_grows_with_support (ink : Ink)
    (hreturns : ∀ family ∈ families, family.Returns config.runs) (hsink : b.sink.Works)
    (hsink' : b'.sink.Works) :
    (∀ s s' : FeatureSet, s.Within s' → Grows ink config families b b' s s') ∧
      ∀ (caps : List Capability) (c d : Capability), c.ordinal ≤ d.ordinal →
        Grows ink config families b b' ((FeatureSet.ofList caps).disabledFrom c)
            ((FeatureSet.ofList caps).disabledFrom d) ∧
          Grows ink config families b b' ((FeatureSet.ofList caps).disabledFrom d) (.ofList caps) := by
  have hgrows : ∀ s s' : FeatureSet, s.Within s' → Grows ink config families b b' s s' :=
    fun _ _ => grows_of_within hreturns hsink hsink'
  refine ⟨hgrows, fun caps c d hle => ⟨?_, ?_⟩⟩
  · exact hgrows _ _ (FeatureSet.disabledFrom_within_disabledFrom hle)
  · exact hgrows _ _ (FeatureSet.disabledFrom_within_ofList)

/-- Under the threshold `avx` only the first row of the sample family is measured; under the threshold `fma`
its second row is no longer skipped. -/
theorem run_grows_of_sample :
    ∃ report after report' after',
      (run .plain ((FeatureSet.ofList [.sse, .avx]).disabledFrom .avx) {} [Family.sample]).on
          (.new (.ticking 0 5 1) (.new none none) (.ofList [])) = (.ok report, after) ∧
        (run .plain ((FeatureSet.ofList [.sse, .avx]).disabledFrom .fma) {} [Family.sample]).on
          (.new (.ticking 7 1 3) (.new none none) (.ofList [])) = (.ok report', after') ∧
        report.measured.map (fun timed => timed.result.name) = ["mulps_sse"] ∧
        report.skipped.map (fun entry => entry.name) = ["mulps_avx"] ∧
        ["mulps_sse"].Sublist (report'.measured.map fun timed => timed.result.name) ∧
        report'.skipped.map (fun entry => entry.name) = [] := by
  have hreturns : ∀ family ∈ [Family.sample], family.Returns ({} : Config).runs := by
    simpa using (Family.sample_orderly _).returns
  have hsink : (Bench.new (.ticking 0 5 1) (.new none none) (.ofList [])).sink.Works := Sink.works_new
  have hsink' : (Bench.new (.ticking 7 1 3) (.new none none) (.ofList [])).sink.Works := Sink.works_new
  obtain ⟨-, hthreshold⟩ := run_grows_with_support .plain hreturns hsink hsink'
  obtain ⟨⟨report, after, report', after', hrun, hrun', haccounts, haccounts', -, -, -, hmeasured, -⟩, -⟩ :=
    hthreshold [.sse, .avx] .avx .fma (by decide)
  have hnames : report.measured.map (fun timed => timed.result.name) = ["mulps_sse"] :=
    haccounts.measured_names.symm
  rw [hnames] at hmeasured
  exact ⟨report, after, report', after', hrun, hrun', hnames, haccounts.skipped_names.symm, hmeasured,
    haccounts'.skipped_names.symm⟩

end Catalog

end OpTiming
