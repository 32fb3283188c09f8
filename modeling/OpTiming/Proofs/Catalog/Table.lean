import Mathlib.Data.List.Forall2
import OpTiming.Proofs.Catalog.Schedule
import OpTiming.Proofs.Measurement

/-!
# Tables, row by row

A catalog seen as a flat table.  Its **`rows`** are its probes, each with its family, in the order in
which they stand there; a feature set splits them into those it admits and those it does not.

* **`results_carry`** — the results of a plan belong, one each, to the rows that are admitted.  This is
  true on every clock, so it says which results a run would give even where it stops early.
* **`Family.Orderly`** — all bodies return and all texts stay on one line.
-/

namespace OpTiming

namespace Catalog

/-! ## Rows -/

/-- The rows of a table: every probe with its family. -/
def rows (families : List Family) : List (Family × Probe) :=
  families.flatMap fun family => family.probes.map fun probe => (family, probe)

/-- Whether all that a row needs is supported. -/
def admitted (features : FeatureSet) (row : Family × Probe) : Bool := row.1.admits features row.2

/-- The rows that are run. -/
def runnable (features : FeatureSet) (families : List Family) : List (Family × Probe) :=
  (rows families).filter (admitted features)

/-- The rows that are left out. -/
def leftOut (features : FeatureSet) (families : List Family) : List (Family × Probe) :=
  (rows families).filter fun row => !admitted features row

variable {features : FeatureSet} {config : Config}

/-- A selection of the rows is made family by family. -/
lemma filter_rows (p : Family × Probe → Bool) (families : List Family) :
    (rows families).filter p = families.flatMap fun family =>
      (family.probes.filter fun probe => p (family, probe)).map fun probe => (family, probe) := by
  induction families with
  | nil => rfl
  | cons family families ih =>
      have hhead : (family.probes.map fun probe => (family, probe)).filter p =
          (family.probes.filter fun probe => p (family, probe)).map fun probe => (family, probe) :=
        List.filter_map ..
      rw [List.flatMap_cons, ← ih, ← hhead, ← List.filter_append]
      rfl

/-! ## The results of a plan -/

/-- A result belongs to a probe: it carries its name, its width and its note. -/
structure Carries (probe : Probe) (result : Measurement) : Prop where
  name : result.name = probe.name
  width : result.width = probe.width
  remark : result.remark = probe.remark

/-- The probes that a step measures. -/
def Step.probes : Step → List Probe
  | announce _ => []
  | warm _ => []
  | skip _ _ => []
  | measure probe => [probe]

lemma carries_timed (probe : Probe) (runs : UInt64) (c : Clock) :
    Carries probe (probe.timed runs c).result := ⟨rfl, rfl, rfl⟩

/-- Steps give one result for each probe that they measure, whatever the clock. -/
lemma results_carry_probes (runs : UInt64) (steps : List Step) (c : Clock) :
    List.Forall₂ (fun probe timed => Carries probe timed.result) (steps.flatMap Step.probes)
      (results runs steps c) := by
  induction steps generalizing c with
  | nil => exact .nil
  | cons step steps ih =>
      have hrest := ih (step.clockAfter c)
      cases step with
      | announce title => exact hrest
      | warm body => exact hrest
      | skip name missing => exact hrest
      | measure probe => exact .cons (carries_timed probe runs c) hrest

lemma map_stepOf_probes (family : Family) (probes : List Probe) :
    (probes.map (stepOf features family)).flatMap Step.probes =
      probes.filter (family.admits features) := by
  rw [map_stepOf_flatMap (f := fun probe => [probe]) (fun _ => rfl) (fun _ _ => rfl)]
  exact List.flatMap_singleton' _

/-- A plan measures the probes of the rows that are run. -/
lemma plan_probes (families : List Family) :
    (plan features config families).flatMap Step.probes =
      (runnable features families).map fun row => row.2 := by
  rw [plan_flatMap, runnable, filter_rows, List.map_flatMap]
  congr 1
  funext family
  rw [warmups_flatMap_eq_nil fun _ => rfl, map_stepOf_probes, List.map_map]
  simp [Step.probes, Function.comp_def, admitted]

/-- **The results of a plan belong to the rows that are run**, one to each and in their order. -/
theorem results_carry (features : FeatureSet) (config : Config) (families : List Family) (c : Clock) :
    List.Forall₂ (fun row timed => Carries row.2 timed.result) (runnable features families)
      (results config.runs (plan features config families) c) := by
  have hprobes := results_carry_probes config.runs (plan features config families) c
  rw [plan_probes, List.forall₂_map_left_iff] at hprobes
  exact hprobes

end Catalog

/-! ## Orderly tables -/

/-- The texts of a probe stay on one line. -/
structure Probe.Plain (probe : Probe) : Prop where
  name : OneLine probe.name
  remark : ∀ note, probe.remark = some note → OneLine note

/-- Both bodies of a probe return, and its texts stay on one line. -/
structure Probe.Orderly (probe : Probe) (runs : UInt64) : Prop where
  throughput : probe.throughput.Returns runs
  latency : probe.latency.Returns runs
  name : OneLine probe.name
  remark : ∀ note, probe.remark = some note → OneLine note

lemma Probe.Orderly.plain {probe : Probe} {runs : UInt64} (h : probe.Orderly runs) : probe.Plain :=
  ⟨h.name, h.remark⟩

/-- The warmup of a family returns, and all its probes are orderly. -/
structure Family.Orderly (family : Family) (runs : UInt64) : Prop where
  warmup : family.warmup.Returns runs
  probes : ∀ probe ∈ family.probes, probe.Orderly runs

lemma Family.sample_orderly (runs : UInt64) : sample.Orderly runs where
  warmup := Body.constant_returns ..
  probes := by
    intro probe hprobe
    rw [sample, List.mem_cons, List.mem_singleton] at hprobe
    have hname : OneLine "mulps_sse" ∧ OneLine "mulps_avx" ∧ OneLine "256 bits" := by
      unfold OneLine
      decide
    obtain rfl | rfl := hprobe
    · exact ⟨Body.constant_returns .., Body.constant_returns .., hname.1, nofun⟩
    · refine ⟨Body.constant_returns .., Body.constant_returns .., hname.2.1, ?_⟩
      rintro note ⟨⟩
      exact hname.2.2

namespace Catalog

variable {features : FeatureSet} {config : Config}

/-- A step only calls bodies that return, and only reports orderly probes. -/
def Step.Orderly (runs : UInt64) : Step → Prop
  | announce _ => True
  | warm body => body.Returns runs
  | skip _ _ => True
  | measure probe => probe.Orderly runs

/-- A step only reports probes whose texts stay on one line. -/
def Step.Plain : Step → Prop
  | announce _ => True
  | warm _ => True
  | skip _ _ => True
  | measure probe => probe.Plain

lemma Step.Orderly.plain {step : Step} {runs : UInt64} (h : step.Orderly runs) : step.Plain := by
  cases step with
  | announce title => trivial
  | warm body => trivial
  | skip name missing => trivial
  | measure probe => exact Probe.Orderly.plain h

/-- A step of a plan announces a family, warms it up, measures one of its probes or skips one. -/
lemma mem_plan_cases {families : List Family} {step : Step} (h : step ∈ plan features config families) :
    ∃ family ∈ families, step = .announce family.title ∨ step = .warm family.warmup ∨
      (∃ probe ∈ family.probes, step = .measure probe) ∨ ∃ name missing, step = .skip name missing := by
  obtain ⟨family, hfamily, h⟩ := List.mem_flatMap.mp h
  refine ⟨family, hfamily, ?_⟩
  rw [planFamily, List.mem_cons, List.mem_append, List.mem_map] at h
  obtain rfl | h | ⟨probe, hprobe, rfl⟩ := h
  · exact Or.inl rfl
  · rw [warmups] at h
    split at h
    · exact Or.inr (Or.inl (List.eq_of_mem_replicate h))
    · cases h
  · obtain ⟨-, hstep⟩ | ⟨-, missing, -, hstep⟩ := stepOf_cases features family probe
    · exact Or.inr (Or.inr (Or.inl ⟨probe, hprobe, hstep⟩))
    · exact Or.inr (Or.inr (Or.inr ⟨probe.name, missing, hstep⟩))

/-- The plan of families with plain probes is made of plain steps. -/
lemma plain_of_mem_plan {families : List Family}
    (hfamilies : ∀ family ∈ families, ∀ probe ∈ family.probes, probe.Plain) {step : Step}
    (h : step ∈ plan features config families) : step.Plain := by
  obtain ⟨family, hfamily, rfl | rfl | ⟨probe, hprobe, rfl⟩ | ⟨name, missing, rfl⟩⟩ := mem_plan_cases h
  · trivial
  · trivial
  · exact hfamilies family hfamily probe hprobe
  · trivial

/-- The plan of orderly families is made of orderly steps. -/
lemma orderly_of_mem_plan {families : List Family}
    (hfamilies : ∀ family ∈ families, family.Orderly config.runs) {step : Step}
    (h : step ∈ plan features config families) : step.Orderly config.runs := by
  obtain ⟨family, hfamily, rfl | rfl | ⟨probe, hprobe, rfl⟩ | ⟨name, missing, rfl⟩⟩ := mem_plan_cases h
  · trivial
  · exact (hfamilies family hfamily).warmup
  · exact (hfamilies family hfamily).probes probe hprobe
  · trivial

end Catalog

end OpTiming
