import OpTiming.Proofs.Catalog.Effects

/-!
# The calls of a catalog run

A body may hold instructions that the processor does not have, so *which* bodies a run calls, and how
often, matters more than anything it prints.  This file says it exactly.

* **`schedule`** — the calls that a catalog is due: family by family, and only where one of the probes
  is admitted, the warmups of the family and then, in table order, the two bodies of each admitted
  probe.
* **`scheduleThrough`** — the part of a schedule that ends with the latency body of one probe.
* **`calls_follow_schedule`** — a run that succeeds makes the calls of the schedule and no others; one
  that fails to report a probe has made them up to that probe; one in which a body meets a fault has
  made some first part of them.  None of them is ever made without its guard being supported.

The guards are decided here by `supportsAll`, not by the two scans of the run itself.
-/

namespace OpTiming

/-- Every body of a family with all that must be supported for it to be called: the warmup needs what
the family needs, the bodies of a probe also what the probe itself needs. -/
def Family.guarded (family : Family) : List (Body × List Capability) :=
  (family.warmup, family.requires) ::
    family.probes.flatMap fun probe =>
      [(probe.throughput, family.needs probe), (probe.latency, family.needs probe)]

namespace Family

lemma warmup_mem_guarded (family : Family) : (family.warmup, family.requires) ∈ family.guarded :=
  List.mem_cons_self ..

lemma throughput_mem_guarded {family : Family} {probe : Probe} (h : probe ∈ family.probes) :
    (probe.throughput, family.needs probe) ∈ family.guarded :=
  List.mem_cons_of_mem _ (List.mem_flatMap.mpr ⟨probe, h, List.mem_cons_self ..⟩)

lemma latency_mem_guarded {family : Family} {probe : Probe} (h : probe ∈ family.probes) :
    (probe.latency, family.needs probe) ∈ family.guarded :=
  List.mem_cons_of_mem _ (List.mem_flatMap.mpr ⟨probe, h, by simp⟩)

end Family

/-- A family of two rows, the second of which needs more than the first. -/
def Family.sample : Family :=
  { title := "SSE"
    requires := [.sse]
    warmup := .constant "warmup" 0 1
    probes :=
      [ ⟨"mulps_sse", .constant "sse throughput" 10 5, .constant "sse latency" 10 20, 4, [], none⟩,
        ⟨"mulps_avx", .constant "avx throughput" 12 5, .constant "avx latency" 12 20, 8, [.avx],
          some "256 bits"⟩ ] }

namespace Catalog

variable (features : FeatureSet) (config : Config)

/-! ## Schedules -/

/-- The calls of a family's warmups. -/
def warmupCalls (family : Family) : List Call :=
  List.replicate config.warmup.toNat ⟨family.warmup.label, config.runs⟩

/-- The calls of those probes of a family that are admitted. -/
def probeCalls (family : Family) (probes : List Probe) : List Call :=
  (probes.filter (family.admits features)).flatMap fun probe => probe.calls config.runs

/-- The calls that a family is due. -/
def scheduleFamily (family : Family) : List Call :=
  if family.probes.any (family.admits features) then
    warmupCalls config family ++ probeCalls features config family family.probes
  else []

/-- The calls that a catalog is due. -/
def schedule (families : List Family) : List Call := families.flatMap (scheduleFamily features config)

/-- The calls due up to a probe and with it, given the families before its own and the probes before it
in its own. -/
def scheduleThrough (before : List Family) (family : Family) (earlier : List Probe) (probe : Probe) :
    List Call :=
  schedule features config before ++ warmupCalls config family ++
    probeCalls features config family earlier ++ probe.calls config.runs

/-! ## The calls of a plan -/

variable {features config}

/-- A probe is measured iff it is admitted. -/
lemma stepOf_eq_measure_iff {family : Family} {probe probe' : Probe} :
    stepOf features family probe = .measure probe' ↔
      probe = probe' ∧ family.admits features probe = true := by
  obtain ⟨hadmits, hstep⟩ | ⟨hadmits, missing, -, hstep⟩ := stepOf_cases features family probe
  · simp [hstep, hadmits]
  · simp [hstep, hadmits]

lemma map_stepOf_calls (family : Family) (probes : List Probe) :
    (probes.map (stepOf features family)).flatMap (Step.calls config.runs) =
      probeCalls features config family probes :=
  map_stepOf_flatMap (fun _ => rfl) (fun _ _ => rfl) family probes

lemma replicate_warm_calls (body : Body) (times : Nat) (runs : UInt64) :
    (List.replicate times (Step.warm body)).flatMap (Step.calls runs) =
      List.replicate times ⟨body.label, runs⟩ := by
  induction times with
  | zero => rfl
  | succ times ih => rw [List.replicate_succ, List.flatMap_cons, ih, Step.calls]; rfl

lemma probeCalls_eq_nil {family : Family} {probes : List Probe}
    (h : probes.any (family.admits features) = false) :
    probeCalls features config family probes = [] := by
  have hnone : probes.filter (family.admits features) = [] := by
    rw [List.filter_eq_nil_iff]
    exact fun probe hprobe => by simpa using List.any_eq_false.mp h probe hprobe
  rw [probeCalls, hnone, List.flatMap_nil]

/-- **The plan makes the calls of the schedule.** -/
lemma plan_calls (families : List Family) :
    (plan features config families).flatMap (Step.calls config.runs) =
      schedule features config families := by
  rw [plan_flatMap, schedule]
  congr 1
  funext family
  rw [map_stepOf_calls, warmups, isRunnable_eq_any, scheduleFamily]
  cases h : family.probes.any (family.admits features) with
  | true => rw [if_pos rfl, if_pos rfl, replicate_warm_calls]; rfl
  | false => rw [if_neg Bool.false_ne_true, if_neg Bool.false_ne_true, probeCalls_eq_nil h]; rfl

/-! ## Where a plan can be cut

A run that fails to report a probe has done all steps before it.  What these steps are is read off the
plan: a flat list that is cut at one of its members is cut inside the share of one family, and the
share of a family that is cut at a measurement is cut behind the warmups. -/

/-- A list of shares that is cut at a member is cut inside one share. -/
lemma flatMap_eq_append_cons {α β : Type} {share : α → List β} {xs : List α} {done rest : List β}
    {y : β} (h : xs.flatMap share = done ++ y :: rest) :
    ∃ before x after done' rest', xs = before ++ x :: after ∧ share x = done' ++ y :: rest' ∧
      done = before.flatMap share ++ done' := by
  induction xs generalizing done with
  | nil => simp at h
  | cons x xs ih =>
      rw [List.flatMap_cons, List.append_eq_append_iff] at h
      obtain ⟨done₁, rfl, h⟩ | ⟨rest₁, hx, h⟩ := h
      · obtain ⟨before, x', after, done', rest', rfl, hx', rfl⟩ := ih h
        exact ⟨x :: before, x', after, done', rest', rfl, hx', by simp⟩
      · cases rest₁ with
        -- the share of x ends where the cut is, so the member stands in a later share
        | nil =>
            obtain ⟨before, x', after, done', rest', rfl, hx', hdone⟩ :=
              ih (show xs.flatMap share = [] ++ y :: rest from h.symm)
            refine ⟨x :: before, x', after, done', rest', rfl, hx', ?_⟩
            rw [List.flatMap_cons, List.append_assoc, ← hdone, hx]
            simp
        | cons z rest₁ =>
            obtain ⟨rfl, rfl⟩ := List.cons.inj h
            exact ⟨[], x, xs, done, rest₁, rfl, hx, rfl⟩

/-- A list that is cut at a value its first part does not hold is cut behind that part. -/
lemma append_eq_append_cons {α : Type} {xs ys done rest : List α} {y : α} (hy : y ∉ xs)
    (h : xs ++ ys = done ++ y :: rest) : ∃ done', done = xs ++ done' ∧ ys = done' ++ y :: rest := by
  rw [List.append_eq_append_iff] at h
  obtain ⟨done', rfl, h⟩ | ⟨rest', rfl, h⟩ := h
  · exact ⟨done', rfl, h⟩
  · cases rest' with
    | nil => exact ⟨[], by simp, h.symm⟩
    | cons z rest' =>
        obtain ⟨rfl, -⟩ := List.cons.inj h
        exact absurd (List.mem_append_right done (List.mem_cons_self ..)) hy

lemma measure_not_mem_before (family : Family) (probe : Probe) :
    Step.measure probe ∉ .announce family.title :: warmups features config family := by
  rw [warmups]
  split <;> simp [List.mem_replicate]

lemma planFamily_eq_append_measure {family : Family} {probe : Probe} {done rest : List Step}
    (h : planFamily features config family = done ++ .measure probe :: rest) :
    ∃ earlier later, family.probes = earlier ++ probe :: later ∧
      family.admits features probe = true ∧
      done.flatMap (Step.calls config.runs) =
        warmupCalls config family ++ probeCalls features config family earlier := by
  rw [planFamily, ← List.cons_append] at h
  obtain ⟨done', rfl, hmap⟩ := append_eq_append_cons (measure_not_mem_before family probe) h
  obtain ⟨earlier, tail, hprobes, rfl, htail⟩ := List.map_eq_append_iff.mp hmap
  obtain ⟨probe', later, rfl, hprobe, -⟩ := List.map_eq_cons_iff.mp htail
  obtain ⟨rfl, hadmits⟩ := stepOf_eq_measure_iff.mp hprobe
  have hrunnable : isRunnable features family = true := by
    rw [isRunnable_eq_any, List.any_eq_true]
    exact ⟨probe', by simp [hprobes], hadmits⟩
  refine ⟨earlier, later, hprobes, hadmits, ?_⟩
  rw [List.flatMap_append, map_stepOf_calls, List.flatMap_cons, warmups, if_pos hrunnable,
    replicate_warm_calls]
  rfl

/-- **Where the plan measures a probe**, the steps before make the calls due before that probe. -/
lemma plan_eq_append_measure {families : List Family} {probe : Probe} {done rest : List Step}
    (h : plan features config families = done ++ .measure probe :: rest) :
    ∃ before family after earlier later, families = before ++ family :: after ∧
      family.probes = earlier ++ probe :: later ∧ family.admits features probe = true ∧
      done.flatMap (Step.calls config.runs) ++ probe.calls config.runs =
        scheduleThrough features config before family earlier probe := by
  obtain ⟨before, family, after, done', rest', rfl, hfamily, rfl⟩ := flatMap_eq_append_cons h
  obtain ⟨earlier, later, hprobes, hadmits, hcalls⟩ := planFamily_eq_append_measure hfamily
  refine ⟨before, family, after, earlier, later, rfl, hprobes, hadmits, ?_⟩
  rw [List.flatMap_append, hcalls, ← plan, plan_calls, scheduleThrough]
  simp only [List.append_assoc]

/-! ## The calls of a performance -/

variable {ink : Ink}

/-- However a performance ends, it has made some first part of its calls. -/
lemma perform_calls (ink : Ink) (config : Config) (steps : List Step) (b : Bench) :
    ∃ made, made <+: steps.flatMap (Step.calls config.runs) ∧
      ((perform ink config steps).on b).2.calls.toList = b.calls.toList ++ made := by
  rcases h : (perform ink config steps).on b with ⟨stop | report, after⟩
  · obtain ⟨done, step, rest, report, mid, rfl, hdone, hstep⟩ := perform_eq_error h
    obtain ⟨made, hmade, hcalls⟩ : ∃ made, made <+: step.calls config.runs ∧
        after.calls.toList = mid.calls.toList ++ made := by
      obtain ⟨probe, failure, rfl, -, hcalls, -⟩ | ⟨fault, made, -, hmade, hcalls⟩ := act_eq_error hstep
      · exact ⟨_, List.prefix_rfl, hcalls⟩
      · exact ⟨made, hmade, hcalls⟩
    refine ⟨done.flatMap (Step.calls config.runs) ++ made, ?_, ?_⟩
    · rw [List.flatMap_append, List.flatMap_cons, List.prefix_append_right_inj]
      exact hmade.trans (List.prefix_append ..)
    · rw [hcalls, perform_calls_of_ok hdone, List.append_assoc]
  · exact ⟨_, List.prefix_rfl, perform_calls_of_ok h⟩

/-! ## The calls of a run -/

/-- However a run ends, it has made some first part of the calls it was due. -/
lemma run_calls (ink : Ink) (features : FeatureSet) (config : Config) (families : List Family)
    (b : Bench) :
    ∃ made, made <+: schedule features config families ∧
      ((run ink features config families).on b).2.calls.toList = b.calls.toList ++ made := by
  rw [run_eq_perform, ← plan_calls]
  exact perform_calls ink config (plan features config families) b

/-- A call that is due is that of a body whose guard is supported. -/
lemma guarded_of_mem_scheduleFamily {family : Family} {c : Call}
    (h : c ∈ scheduleFamily features config family) :
    c.runs = config.runs ∧ ∃ guarded ∈ family.guarded,
      guarded.1.label = c.body ∧ features.supportsAll guarded.2 = true := by
  rw [scheduleFamily] at h
  split at h
  next hany =>
    obtain h | h := List.mem_append.mp h
    · obtain ⟨-, rfl⟩ := List.mem_replicate.mp h
      obtain ⟨probe, -, hadmits⟩ := List.any_eq_true.mp hany
      rw [Family.admits, Bool.and_eq_true] at hadmits
      exact ⟨rfl, _, family.warmup_mem_guarded, rfl, hadmits.1⟩
    · obtain ⟨probe, hprobe, h⟩ := List.mem_flatMap.mp h
      obtain ⟨hprobe, hadmits⟩ := List.mem_filter.mp hprobe
      rw [Family.admits_eq_supportsAll_needs] at hadmits
      simp only [Probe.calls, List.mem_cons, List.not_mem_nil, or_false] at h
      obtain rfl | rfl := h
      · exact ⟨rfl, _, Family.throughput_mem_guarded hprobe, rfl, hadmits⟩
      · exact ⟨rfl, _, Family.latency_mem_guarded hprobe, rfl, hadmits⟩
  next => simp at h

lemma guarded_of_mem_schedule {families : List Family} {c : Call}
    (h : c ∈ schedule features config families) :
    c.runs = config.runs ∧ ∃ guarded ∈ families.flatMap Family.guarded,
      guarded.1.label = c.body ∧ features.supportsAll guarded.2 = true := by
  obtain ⟨family, hfamily, h⟩ := List.mem_flatMap.mp h
  obtain ⟨hruns, guarded, hguarded, hlabel, hsupports⟩ := guarded_of_mem_scheduleFamily h
  exact ⟨hruns, guarded, List.mem_flatMap.mpr ⟨family, hfamily, hguarded⟩, hlabel, hsupports⟩

/-- **The calls of a run follow the schedule**, whatever the catalog, the feature set, the settings and
the sink.  A run that succeeds has made exactly the scheduled calls.  One that fails has failed to
report an admitted probe, and has made the calls up to the latency body of that probe.  However it
ends, the calls made are a first part of the schedule, and each is that of a body whose guard is
supported. -/
theorem calls_follow_schedule (ink : Ink) (features : FeatureSet) (config : Config)
    (families : List Family) (b : Bench) :
    ∃ made, ((run ink features config families).on b).2.calls.toList = b.calls.toList ++ made ∧
      made <+: schedule features config families ∧
      (∀ c ∈ made, c.runs = config.runs ∧ ∃ guarded ∈ families.flatMap Family.guarded,
        guarded.1.label = c.body ∧ features.supportsAll guarded.2 = true) ∧
      match (run ink features config families).on b with
      | (.ok _, _) => made = schedule features config families
      | (.error (.failure failure), after) =>
        ∃ before family later earlier probe rest, families = before ++ family :: later ∧
          family.probes = earlier ++ probe :: rest ∧ family.admits features probe = true ∧
          made = scheduleThrough features config before family earlier probe ∧
          FailsReporting config probe failure after
      | (.error (.fault _), _) => True := by
  obtain ⟨made, hmade, hcalls⟩ := run_calls ink features config families b
  rw [run_eq_perform] at hcalls ⊢
  refine ⟨made, hcalls, hmade, fun c hc => guarded_of_mem_schedule (hmade.subset hc), ?_⟩
  rcases h : (perform ink config (plan features config families)).on b with ⟨stop | report, after⟩
  · obtain ⟨done, step, rest, report, mid, hplan, hdone, hstep⟩ := perform_eq_error h
    obtain ⟨probe, failure, rfl, rfl, hprobe, hreport⟩ | ⟨fault, -, rfl, -⟩ := act_eq_error hstep
    · obtain ⟨before, family, later, earlier, rest, hfamilies, hprobes, hadmits, hthrough⟩ :=
        plan_eq_append_measure hplan
      refine ⟨before, family, later, earlier, probe, rest, hfamilies, hprobes, hadmits, ?_, hreport⟩
      rw [h] at hcalls
      rw [hprobe, perform_calls_of_ok hdone, List.append_assoc, hthrough] at hcalls
      exact (List.append_cancel_left hcalls).symm
    · trivial
  · rw [h] at hcalls
    rw [perform_calls_of_ok h, plan_calls] at hcalls
    exact (List.append_cancel_left hcalls).symm

/-- A run of the sample family, with two warmups and three trips, on a sink that may have a bad flush. -/
def sampleRun (features : FeatureSet) (badFlush : Option Nat) : Except Stop Report × Bench :=
  (run .plain features { runs := 3, warmup := 2 } [Family.sample]).on
    (.new (.ticking 0 5 1) (.new none badFlush) (.ofList []))

/-- Where both rows of the sample family can run, a run calls all their bodies after the warmups.  Where the second
row is above the threshold and the first one cannot be reported, the calls end with the latency body of the first. -/
theorem calls_of_sample :
    (∃ report after, sampleRun (.ofList [.sse, .avx]) none = (.ok report, after) ∧
        after.calls.toList = [⟨"warmup", 3⟩, ⟨"warmup", 3⟩, ⟨"sse throughput", 3⟩, ⟨"sse latency", 3⟩,
          ⟨"avx throughput", 3⟩, ⟨"avx latency", 3⟩]) ∧
      ∃ failure after, sampleRun ((FeatureSet.ofList [.sse, .avx]).disabledFrom .avx) (some 1) =
          (.error (.failure failure), after) ∧
        after.calls.toList =
          [⟨"warmup", 3⟩, ⟨"warmup", 3⟩, ⟨"sse throughput", 3⟩, ⟨"sse latency", 3⟩] := by
  have hgood : (sampleRun (.ofList [.sse, .avx]) none).1.isOk = true := by decide +kernel
  have hbad : (sampleRun ((FeatureSet.ofList [.sse, .avx]).disabledFrom .avx) (some 1)).1.isOk = false ∧
      Action.FaultFree (sampleRun ((FeatureSet.ofList [.sse, .avx]).disabledFrom .avx) (some 1)).1 := by
    decide +kernel
  constructor
  · have hfollows := calls_follow_schedule .plain (.ofList [.sse, .avx]) { runs := 3, warmup := 2 }
      [Family.sample] (.new (.ticking 0 5 1) (.new none none) (.ofList []))
    rw [← sampleRun] at hfollows
    rcases hrun : sampleRun (.ofList [.sse, .avx]) none with ⟨stop | report, after⟩
    · rw [hrun] at hgood
      cases hgood
    · rw [hrun] at hfollows
      obtain ⟨made, hcalls, -, -, rfl⟩ := hfollows
      refine ⟨report, after, rfl, ?_⟩
      rw [hcalls]
      decide +kernel
  · have hfollows := calls_follow_schedule .plain ((FeatureSet.ofList [.sse, .avx]).disabledFrom .avx)
      { runs := 3, warmup := 2 } [Family.sample] (.new (.ticking 0 5 1) (.new none (some 1)) (.ofList []))
    rw [← sampleRun] at hfollows
    rcases hrun : sampleRun ((FeatureSet.ofList [.sse, .avx]).disabledFrom .avx) (some 1)
      with ⟨(fault | failure) | report, after⟩
    · rw [hrun] at hbad
      exact absurd rfl (hbad.2 fault)
    · rw [hrun] at hfollows
      obtain ⟨made, hcalls, hprefix, -, before, family, _, earlier, probe, _, -, -, -, hthrough, -⟩ := hfollows
      -- two warmups and the two bodies of a probe are all that was due
      have hall : made = schedule ((FeatureSet.ofList [.sse, .avx]).disabledFrom .avx)
          { runs := 3, warmup := 2 } [Family.sample] := by
        refine hprefix.eq_of_length_le ?_
        rw [hthrough]
        simp only [scheduleThrough, warmupCalls, Probe.calls, List.length_append, List.length_replicate]
        change 4 ≤ _ + 2 + _ + 2
        omega
      refine ⟨failure, after, rfl, ?_⟩
      rw [hcalls, hall]
      decide +kernel
    · rw [hrun] at hbad
      cases hbad.1

end Catalog

end OpTiming
