import OpTiming.Catalog
import OpTiming.Proofs.FeatureSet
import OpTiming.Proofs.Runner

/-!
# The plan of a catalog run

A catalog run nests three loops: over families, over warmups, over probes.  Which bodies it will call
and which probes it will skip depends on the feature set alone, though, not on anything that happens
during the run.  So the whole run is laid out beforehand as one flat list of steps, its **`plan`**, and
is then performed step by step.

* **`Step`** — announce a family, warm up, skip a probe or measure one; `Step.act` is what is done.
* **`perform`** — one step after another.
* **`run_eq_perform`** — a catalog run *is* the performance of its plan.
* **`act_announce`**, **`act_skip`**, **`act_warm`**, **`act_measure_cases`** — all that a step can do.

The rest of this file are the two ways to reason about a performance.  One that gives a report went
through every step, so whatever a step adds is added up (`perform_adds`).  One that stops went through
some steps and stopped in the next one (`perform_eq_error`).
-/

namespace OpTiming.Catalog

open OpTiming.Action

/-! ## Guards of a row -/

lemma missing?_eq_firstMissing? (features : FeatureSet) (family : Family) (probe : Probe) :
    missing? features family probe = features.firstMissing? (family.needs probe) := by
  rw [missing?, Family.needs, FeatureSet.firstMissing?_append]

lemma missing?_eq_none_iff {features : FeatureSet} {family : Family} {probe : Probe} :
    missing? features family probe = none ↔ family.admits features probe = true := by
  rw [missing?_eq_firstMissing?, FeatureSet.firstMissing?_eq_none_iff,
    Family.admits_eq_supportsAll_needs]

/-- The scan before the warmup finds a family runnable iff one of its probes is admitted. -/
lemma isRunnable_eq_any (features : FeatureSet) (family : Family) :
    isRunnable features family = family.probes.any (family.admits features) := by
  rw [isRunnable]
  congr 1
  funext probe
  rw [Bool.eq_iff_iff, Option.isNone_iff_eq_none]
  exact missing?_eq_none_iff

/-! ## Reports in sequence -/

@[simp] lemma Report.empty_append (r : Report) : Report.empty.append r = r := rfl

lemma Report.append_assoc (a b c : Report) : (a.append b).append c = a.append (b.append c) := by
  simp [Report.append]

/-! ## Steps -/

/-- A step of a catalog run. -/
inductive Step
  /-- Announce a family. -/
  | announce (title : String)
  /-- Call a warmup body once. -/
  | warm (body : Body)
  /-- Leave a probe out. -/
  | skip (name : String) (missing : Capability)
  /-- Measure a probe and report it. -/
  | measure (probe : Probe)

variable (ink : Ink) (features : FeatureSet) (config : Config)

/-- Do a step. -/
def Step.act : Step → Action Report
  | announce title => do
    noteIf config.verbose (Terminal.familyHeader ink title)
    return .empty
  | warm body => do
    let _ ← call body config.runs
    return .empty
  | skip name missing => do
    noteIf config.verbose (Terminal.skip ink name missing)
    return ⟨[], [⟨name, missing⟩]⟩
  | measure probe => do
    let timed ← Runner.run config.format probe config.runs
    return ⟨[timed], []⟩

/-- Do several steps, one after the other. -/
def perform : List Step → Action Report
  | [] => pure .empty
  | step :: steps => do
    let first ← step.act ink config
    let rest ← perform steps
    return first.append rest

/-- What becomes of a probe. -/
def stepOf (family : Family) (probe : Probe) : Step :=
  match missing? features family probe with
  | some missing => .skip probe.name missing
  | none => .measure probe

/-- The warmups of a family. -/
def warmups (family : Family) : List Step :=
  if isRunnable features family then List.replicate config.warmup.toNat (.warm family.warmup) else []

/-- The steps of a family. -/
def planFamily (family : Family) : List Step :=
  .announce family.title :: (warmups features config family ++ family.probes.map (stepOf features family))

/-- The steps of a catalog. -/
def plan (families : List Family) : List Step := families.flatMap (planFamily features config)

/-- **A probe is measured or skipped.**  It is measured if it is admitted; otherwise it is skipped for
the first of its needs that is not supported. -/
lemma stepOf_cases (family : Family) (probe : Probe) :
    (family.admits features probe = true ∧ stepOf features family probe = .measure probe) ∨
      (family.admits features probe = false ∧ ∃ missing,
        features.firstMissing? (family.needs probe) = some missing ∧
          stepOf features family probe = .skip probe.name missing) := by
  rw [stepOf]
  cases hmissing : missing? features family probe with
  | none => exact Or.inl ⟨missing?_eq_none_iff.mp hmissing, rfl⟩
  | some missing =>
      refine Or.inr ⟨?_, missing, ?_, rfl⟩
      · rw [Bool.eq_false_iff, ne_eq, ← missing?_eq_none_iff, hmissing]
        exact Option.some_ne_none missing
      · rw [← missing?_eq_firstMissing?, hmissing]

/-! ## A run performs its plan -/

lemma perform_append (xs ys : List Step) :
    perform ink config (xs ++ ys) = do
      let first ← perform ink config xs
      let rest ← perform ink config ys
      return first.append rest := by
  induction xs with
  | nil => simp only [List.nil_append, perform, pure_bind, Report.empty_append, bind_pure]
  | cons x xs ih =>
      simp only [List.cons_append, perform, ih, bind_assoc, pure_bind, Report.append_assoc]

lemma perform_warmups (body : Body) (times : Nat) :
    perform ink config (List.replicate times (.warm body)) = do
      warmUp body config.runs times
      return .empty := by
  induction times with
  | zero => simp [perform, warmUp]
  | succ times ih => simp [List.replicate_succ, perform, Step.act, warmUp, ih]

lemma runProbes_eq_perform (family : Family) (probes : List Probe) :
    runProbes ink features config family probes =
      perform ink config (probes.map (stepOf features family)) := by
  induction probes with
  | nil => rfl
  | cons probe probes ih =>
      rw [runProbes, List.map_cons, perform, ih, stepOf]
      cases missing? features family probe with
      | some missing => simp [Step.act, Report.append]
      | none => simp [Step.act, Report.append]

lemma runFamily_eq_perform (family : Family) :
    runFamily ink features config family =
      perform ink config (planFamily features config family) := by
  rw [runFamily, planFamily, perform, perform_append, runProbes_eq_perform, warmups]
  cases isRunnable features family with
  | true => simp [Step.act, perform_warmups]
  | false => simp [Step.act, perform]

/-- **A catalog run performs its plan.** -/
theorem run_eq_perform (families : List Family) :
    run ink features config families = perform ink config (plan features config families) := by
  induction families with
  | nil => rfl
  | cons family families ih =>
      show _ = perform ink config (planFamily features config family ++ plan features config families)
      rw [run, ih, runFamily_eq_perform, perform_append]

/-! ## What a step does -/

lemma act_announce (title : String) (b : Bench) :
    (Step.act ink config (.announce title)).on b = (.ok .empty,
      { b with notes :=
          if config.verbose then b.notes.push (Terminal.familyHeader ink title) else b.notes }) := by
  simp only [Step.act, on_bind, on_noteIf, on_pure]

lemma act_skip (name : String) (missing : Capability) (b : Bench) :
    (Step.act ink config (.skip name missing)).on b = (.ok ⟨[], [⟨name, missing⟩]⟩,
      { b with notes :=
          if config.verbose then b.notes.push (Terminal.skip ink name missing) else b.notes }) := by
  simp only [Step.act, on_bind, on_noteIf, on_pure]

lemma act_warm (body : Body) (b : Bench) :
    (Step.act ink config (.warm body)).on b =
      (((body.count config.runs).mapError Stop.fault).map fun _ => .empty,
        { b with calls := b.calls.push ⟨body.label, config.runs⟩
                 clock := b.clock.advance body.spend }) := by
  simp only [Step.act, on_bind, on_call]
  cases body.count config.runs <;> rfl

lemma act_measure (probe : Probe) (b : Bench) :
    (Step.act ink config (.measure probe)).on b =
      match (Runner.measure probe config.runs).on b with
      | (.error stop, after) => (.error stop, after)
      | (.ok timed, measured) =>
        match (Runner.reportTimed config.format timed).on measured with
        | (.error stop, after) => (.error stop, after)
        | (.ok (), after) => (.ok ⟨[timed], []⟩, after) := by
  simp only [Step.act, Runner.run, on_bind]
  rcases (Runner.measure probe config.runs).on b with ⟨stop | timed, measured⟩
  · rfl
  · simp only
    rcases (Runner.reportTimed config.format timed).on measured with ⟨stop | ⟨⟩, after⟩ <;> rfl

/-- **A measured probe ends in one of three ways.**  It is reported, or its report fails after both
bodies were called, or one of its bodies meets a fault. -/
lemma act_measure_cases (probe : Probe) (b : Bench) :
    (∃ sink, (Step.act ink config (.measure probe)).on b =
        (.ok ⟨[probe.timed config.runs b.clock], []⟩, { b.measuredBy probe config.runs with sink })) ∨
      (∃ cause sink, (Runner.measure probe config.runs).on b =
          (.ok (probe.timed config.runs b.clock), b.measuredBy probe config.runs) ∧
        (Runner.reportTimed config.format (probe.timed config.runs b.clock)).on
            (b.measuredBy probe config.runs) =
          (.error (.failure (.output cause)), { b.measuredBy probe config.runs with sink }) ∧
        (Step.act ink config (.measure probe)).on b =
          (.error (.failure (.output cause)), { b.measuredBy probe config.runs with sink })) ∨
      ∃ fault clock watch made, made <+: probe.calls config.runs ∧
        (Step.act ink config (.measure probe)).on b =
          (.error (.fault fault), { b with clock, watch, calls := b.calls ++ made }) := by
  rw [act_measure]
  obtain hrun | ⟨fault, clock, watch, made, hmade, hrun⟩ := Runner.measure_cases probe config.runs b
  · rw [hrun]
    obtain ⟨sink, hreport⟩ | ⟨cause, sink, hreport⟩ :=
      Runner.reportTimed_cases config.format (probe.timed config.runs b.clock)
        (b.measuredBy probe config.runs)
    · exact Or.inl ⟨sink, by simp only [hreport]⟩
    · exact Or.inr (Or.inl ⟨cause, sink, rfl, hreport, by simp only [hreport]⟩)
  · rw [hrun]
    exact Or.inr (Or.inr ⟨fault, clock, watch, made, hmade, rfl⟩)

/-! ## Performances that give a report -/

variable {ink config}

lemma perform_cons_eq_ok {step : Step} {steps : List Step} {b after : Bench} {report : Report} :
    (perform ink config (step :: steps)).on b = (.ok report, after) ↔
      ∃ first mid rest, (step.act ink config).on b = (.ok first, mid) ∧
        (perform ink config steps).on mid = (.ok rest, after) ∧ report = first.append rest := by
  simp only [perform, on_bind_eq_ok, on_pure]
  constructor
  · rintro ⟨first, mid, hfirst, rest, mid', hrest, heq⟩
    cases heq
    exact ⟨first, mid, rest, hfirst, hrest, rfl⟩
  · rintro ⟨first, mid, rest, hfirst, hrest, rfl⟩
    exact ⟨first, mid, hfirst, rest, after, hrest, rfl⟩

/-- **What every step adds is added up.**  If each step that gives a report adds its share to a list
shown by the bench, the shares stand there in the order of the steps. -/
theorem perform_adds {δ : Type} (view : Bench → List δ) (share : Step → List δ)
    (hstep : ∀ step b report after, (Step.act ink config step).on b = (.ok report, after) →
      view after = view b ++ share step)
    {steps : List Step} {b after : Bench} {report : Report}
    (h : (perform ink config steps).on b = (.ok report, after)) :
    view after = view b ++ steps.flatMap share := by
  induction steps generalizing b report with
  | nil =>
      cases h
      simp
  | cons step steps ih =>
      obtain ⟨first, mid, rest, hfirst, hrest, -⟩ := perform_cons_eq_ok.mp h
      rw [ih hrest, hstep step b first mid hfirst, List.flatMap_cons, List.append_assoc]

/-! ## Performances that stop -/

lemma perform_cons_eq_error {step : Step} {steps : List Step} {b after : Bench} {stop : Stop} :
    (perform ink config (step :: steps)).on b = (.error stop, after) ↔
      (step.act ink config).on b = (.error stop, after) ∨
        ∃ first mid, (step.act ink config).on b = (.ok first, mid) ∧
          (perform ink config steps).on mid = (.error stop, after) := by
  simp only [perform, on_bind_eq_error, on_pure, Prod.mk.injEq, reduceCtorEq, false_and, and_false,
    exists_false, or_false]

/-- **A performance that stops, stops in one of its steps**, and all steps before it were done. -/
theorem perform_eq_error {steps : List Step} {b after : Bench} {stop : Stop}
    (h : (perform ink config steps).on b = (.error stop, after)) :
    ∃ done step rest report mid, steps = done ++ step :: rest ∧
      (perform ink config done).on b = (.ok report, mid) ∧
      (step.act ink config).on mid = (.error stop, after) := by
  induction steps generalizing b with
  | nil => cases h
  | cons step steps ih =>
      obtain h | ⟨first, mid, hfirst, h⟩ := perform_cons_eq_error.mp h
      · exact ⟨[], step, steps, .empty, b, rfl, rfl, h⟩
      · obtain ⟨done, last, rest, report, mid', rfl, hdone, hlast⟩ := ih h
        exact ⟨step :: done, last, rest, first.append report, mid', rfl,
          perform_cons_eq_ok.mpr ⟨first, mid, report, hfirst, hdone, rfl⟩, hlast⟩

end OpTiming.Catalog
