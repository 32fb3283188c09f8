import OpTiming.Proofs.Catalog.Plan

/-!
# What a step leaves behind

The traces of a step that gives a report: the **calls** it makes, the **notes** it prints, the
**entries** it adds to the skipped probes, the **results** it adds to the measured ones, and where it
leaves the clock.  All of them are known beforehand from the step itself and, for the results, from
the clock on which it starts; the sink has no part in them.

* **`act_eq_ok`** — a step that gives a report leaves exactly these traces.
* **`act_eq_error`** — a step that stops fails to report a probe, or meets a fault.
* **`perform_eq_ok`**, **`perform_calls_of_ok`**, **`perform_notes_of_ok`** — the same for a performance,
  where they are added up.
* **`plan_flatMap`** — what is added up along a plan is added up family by family.
-/

namespace OpTiming

namespace Catalog

/-! ## The traces of a step -/

namespace Step

/-- The calls that a step makes. -/
def calls (runs : UInt64) : Step → List Call
  | announce _ => []
  | warm body => [⟨body.label, runs⟩]
  | skip _ _ => []
  | measure probe => probe.calls runs

/-- The notes that a step prints, if notes are printed. -/
def remarks (ink : Ink) : Step → List String
  | announce title => [Terminal.familyHeader ink title]
  | warm _ => []
  | skip name missing => [Terminal.skip ink name missing]
  | measure _ => []

/-- The notes that a step prints. -/
def notes (ink : Ink) (verbose : Bool) (step : Step) : List String :=
  if verbose then step.remarks ink else []

/-- The entries that a step adds to the skipped probes. -/
def entries : Step → List Skipped
  | announce _ => []
  | warm _ => []
  | skip name missing => [⟨name, missing⟩]
  | measure _ => []

/-- The results of a step that starts on a clock. -/
def results (runs : UInt64) (c : Clock) : Step → List Timed
  | announce _ => []
  | warm _ => []
  | skip _ _ => []
  | measure probe => [probe.timed runs c]

/-- The clock after a step that started on one. -/
def clockAfter (c : Clock) : Step → Clock
  | announce _ => c
  | warm body => c.advance body.spend
  | skip _ _ => c
  | measure probe => probe.clockAfter c

end Step

/-- The results of several steps, the first of which starts on a clock. -/
def results (runs : UInt64) : List Step → Clock → List Timed
  | [], _ => []
  | step :: steps, c => step.results runs c ++ results runs steps (step.clockAfter c)

variable {ink : Ink} {features : FeatureSet} {config : Config}

/-- **A step that gives a report leaves its traces**, and besides them changes only the sink and the
stopwatch. -/
lemma act_eq_ok {step : Step} {b after : Bench} {report : Report}
    (h : (step.act ink config).on b = (.ok report, after)) :
    ∃ sink watch, report = ⟨step.results config.runs b.clock, step.entries⟩ ∧
      after = { b with
        clock := step.clockAfter b.clock, watch, sink
        notes := b.notes ++ step.notes ink config.verbose
        calls := b.calls ++ step.calls config.runs } := by
  cases step with
  | announce title =>
      rw [act_announce] at h
      cases h
      refine ⟨b.sink, b.watch, rfl, ?_⟩
      cases hv : config.verbose <;> simp [Step.notes, Step.remarks, Step.calls, Step.clockAfter]
  | skip name missing =>
      rw [act_skip] at h
      cases h
      refine ⟨b.sink, b.watch, rfl, ?_⟩
      cases hv : config.verbose <;> simp [Step.notes, Step.remarks, Step.calls, Step.clockAfter]
  | warm body =>
      rw [act_warm] at h
      obtain ⟨houtcome, rfl⟩ := Prod.mk.inj h
      refine ⟨b.sink, b.watch, ?_, ?_⟩
      · cases hcount : body.count config.runs with
        | error fault => simp [hcount, Except.mapError, Except.map] at houtcome
        | ok groups =>
            rw [hcount] at houtcome
            cases houtcome
            rfl
      · simp [Step.notes, Step.remarks, Step.calls, Step.clockAfter]
  | measure probe =>
      obtain ⟨sink, hrun⟩ | ⟨cause, sink, -, -, hrun⟩ | ⟨fault, clock, watch, made, -, hrun⟩ :=
        act_measure_cases ink config probe b
      · rw [hrun] at h
        cases h
        refine ⟨sink, (b.measuredBy probe config.runs).watch, rfl, ?_⟩
        simp [Step.notes, Step.remarks, Step.calls, Step.clockAfter, Bench.measuredBy, Bench.timedBy,
          Probe.calls, Probe.clockAfter]
      · rw [hrun] at h
        cases h
      · rw [hrun] at h
        cases h

/-- The run ended in reporting a probe that had been measured. -/
def FailsReporting (config : Config) (probe : Probe) (failure : Failure) (after : Bench) : Prop :=
  ∃ start measured timed, (Runner.measure probe config.runs).on start = (.ok timed, measured) ∧
    (Runner.reportTimed config.format timed).on measured = (.error (.failure failure), after)

/-- **A step that stops** fails to report a probe all of whose calls were made, or meets a fault after
some first part of its calls. -/
lemma act_eq_error {step : Step} {b after : Bench} {stop : Stop}
    (h : (step.act ink config).on b = (.error stop, after)) :
    (∃ probe failure, step = .measure probe ∧ stop = .failure failure ∧
        after.calls.toList = b.calls.toList ++ probe.calls config.runs ∧
        FailsReporting config probe failure after) ∨
      ∃ fault made, stop = .fault fault ∧ made <+: step.calls config.runs ∧
        after.calls.toList = b.calls.toList ++ made := by
  cases step with
  | announce title =>
      rw [act_announce] at h
      cases h
  | skip name missing =>
      rw [act_skip] at h
      cases h
  | warm body =>
      rw [act_warm] at h
      cases hcount : body.count config.runs with
      | ok groups =>
          rw [hcount] at h
          cases h
      | error fault =>
          rw [hcount] at h
          cases h
          exact Or.inr ⟨fault, _, rfl, List.prefix_rfl, by simp [Step.calls]⟩
  | measure probe =>
      obtain ⟨sink, hrun⟩ | ⟨cause, sink, hmeasure, hreport, hrun⟩ |
          ⟨fault, clock, watch, made, hmade, hrun⟩ := act_measure_cases ink config probe b
      · rw [hrun] at h
        cases h
      · rw [hrun] at h
        cases h
        exact Or.inl ⟨probe, _, rfl, rfl, b.measuredBy_calls probe config.runs, b, _, _, hmeasure, hreport⟩
      · rw [hrun] at h
        cases h
        exact Or.inr ⟨fault, made, rfl, hmade, by simp⟩

/-! ## The traces of a performance -/

/-- **The report of a performance** holds the results of its steps on the clock it started on, and the
entries of its steps. -/
lemma perform_eq_ok {steps : List Step} {b after : Bench} {report : Report}
    (h : (perform ink config steps).on b = (.ok report, after)) :
    report = ⟨results config.runs steps b.clock, steps.flatMap Step.entries⟩ := by
  induction steps generalizing b report with
  | nil =>
      cases h
      rfl
  | cons step steps ih =>
      obtain ⟨first, mid, rest, hfirst, hrest, rfl⟩ := perform_cons_eq_ok.mp h
      obtain ⟨sink, watch, rfl, rfl⟩ := act_eq_ok hfirst
      rw [ih hrest]
      rfl

lemma perform_calls_of_ok {steps : List Step} {b after : Bench} {report : Report}
    (h : (perform ink config steps).on b = (.ok report, after)) :
    after.calls.toList = b.calls.toList ++ steps.flatMap (Step.calls config.runs) := by
  refine perform_adds (fun b => b.calls.toList) (Step.calls config.runs) ?_ h
  intro step b report after hstep
  obtain ⟨sink, watch, -, rfl⟩ := act_eq_ok hstep
  simp

lemma perform_notes_of_ok {steps : List Step} {b after : Bench} {report : Report}
    (h : (perform ink config steps).on b = (.ok report, after)) :
    after.notes.toList = b.notes.toList ++ steps.flatMap (Step.notes ink config.verbose) := by
  refine perform_adds (fun b => b.notes.toList) (Step.notes ink config.verbose) ?_ h
  intro step b report after hstep
  obtain ⟨sink, watch, -, rfl⟩ := act_eq_ok hstep
  simp

/-! ## The traces of a plan -/

/-- What warmups add nothing to, the warmups of a family add nothing to. -/
lemma warmups_flatMap_eq_nil {δ : Type} {share : Step → List δ} (hwarm : ∀ body, share (.warm body) = [])
    (family : Family) : (warmups features config family).flatMap share = [] := by
  rw [List.flatMap_eq_nil_iff]
  intro step hstep
  rw [warmups] at hstep
  split at hstep
  · rw [List.eq_of_mem_replicate hstep, hwarm]
  · cases hstep

/-- What only measured probes add to is added by the probes that are admitted. -/
lemma map_stepOf_flatMap {δ : Type} {share : Step → List δ} {f : Probe → List δ}
    (hmeasure : ∀ probe, share (.measure probe) = f probe)
    (hskip : ∀ name missing, share (.skip name missing) = []) (family : Family) (probes : List Probe) :
    (probes.map (stepOf features family)).flatMap share =
      (probes.filter (family.admits features)).flatMap f := by
  induction probes with
  | nil => rfl
  | cons probe probes ih =>
      rw [List.map_cons, List.flatMap_cons, ih, List.filter_cons]
      obtain ⟨hadmits, hstep⟩ | ⟨hadmits, missing, -, hstep⟩ := stepOf_cases features family probe
      · rw [hstep, hmeasure, if_pos hadmits, List.flatMap_cons]
      · rw [hstep, hskip, hadmits, if_neg Bool.false_ne_true, List.nil_append]

/-- **Along a plan, shares are added up family by family**: that of the header, those of the warmups,
those of the probes. -/
lemma plan_flatMap {δ : Type} (share : Step → List δ) (families : List Family) :
    (plan features config families).flatMap share = families.flatMap fun family =>
      share (.announce family.title) ++ ((warmups features config family).flatMap share ++
        (family.probes.map (stepOf features family)).flatMap share) := by
  rw [plan, List.flatMap_assoc]
  congr 1
  funext family
  rw [planFamily, List.flatMap_cons, List.flatMap_append]

end Catalog

end OpTiming
