import OpTiming.Probe.Aarch64
import OpTiming.Probe.Armv7
import OpTiming.Probe.X86
import OpTiming.Proofs.Fault
import OpTiming.Proofs.Runner

/-!
# What the bodies of the tables report

A figure is a time divided by the number of groups that a body reports, so the two figures of a row can
only be compared if both bodies count alike.  They do, in every row of every table.

* **`Body.CountsExactly`** — what a loop with a 64-bit counter reports: so many groups in every
  iteration, exactly, or an overflow.
* **`Body.CountsCapped`** — what a loop with a 32-bit counter reports: so many groups in every iteration
  that the counter can count, and never an overflow.
* **`Family.Unrolls`** — the warmup and both bodies of every row count in one of these two ways, and
  execute ten groups or more in an iteration.  `family_unrolls` gets this for a family from the groups
  that are written down in its rows, so a table is checked by looking at its data.
* **`Probe.Normalised`** — the figures of a result are times over one count, which both bodies report.
* **`bodies_count_alike`** — all three tables.
-/

namespace OpTiming

namespace Body

/-! ## Two ways to count -/

/-- A body reports the exact number of groups that it executes where a 64-bit count can hold it, and
stops with an overflow where it cannot. -/
structure CountsExactly (body : Body) (groups : Nat) : Prop where
  /-- A loop without iterations executes nothing. -/
  idle : body.count 0 = .ok 0
  exact : ∀ runs, runs.toNat * groups < 2 ^ 64 →
    ∃ count, body.count runs = .ok count ∧ count.toNat = runs.toNat * groups
  overflows : ∀ runs, 2 ^ 64 ≤ runs.toNat * groups → body.count runs = .error .multiplyOverflow

/-- A body reports the exact number of groups that it executes, and never runs more iterations than a
32-bit counter can count. -/
structure CountsCapped (body : Body) (groups : Nat) : Prop where
  capped : ∀ runs, ∃ count, body.count runs = .ok count ∧
    count.toNat = min runs.toNat (2 ^ 32 - 1) * groups

section Unrolled

variable {groups trips : UInt64}

lemma unrolledCount_of_lt (h : trips.toNat * groups.toNat < 2 ^ 64) :
    ∃ count, unrolledCount groups trips = .ok count ∧ count.toNat = trips.toNat * groups.toNat := by
  rw [unrolledCount]
  split
  · next hidle => exact ⟨0, rfl, by simp [hidle]⟩
  · exact checkedMul_of_lt h

lemma unrolledCount_of_le (h : 2 ^ 64 ≤ trips.toNat * groups.toNat) :
    unrolledCount groups trips = .error .multiplyOverflow := by
  have htrips : trips ≠ 0 := by
    rintro rfl
    simp at h
  rw [unrolledCount, if_neg htrips, checkedMul_of_le h]

lemma unrolled_countsExactly (label : String) (groups : UInt64) :
    (unrolled label groups).CountsExactly groups.toNat where
  idle := rfl
  exact _ h := unrolledCount_of_lt h
  overflows _ h := unrolledCount_of_le h

/-- The trips that a 32-bit counter can count, times a few groups, always fit 64 bits. -/
lemma narrowUnrolled_countsCapped (label : String) (h : groups.toNat < 2 ^ 32) :
    (narrowUnrolled label groups).CountsCapped groups.toNat where
  capped runs := by
    have htrips : (min runs largestNarrowTrip).toNat = min runs.toNat (2 ^ 32 - 1) := by
      rw [UInt64.toNat_min]
      rfl
    have hfits : min runs.toNat (2 ^ 32 - 1) * groups.toNat < 2 ^ 64 :=
      calc min runs.toNat (2 ^ 32 - 1) * groups.toNat
          ≤ (2 ^ 32 - 1) * (2 ^ 32 - 1) := Nat.mul_le_mul (Nat.min_le_right _ _) (by omega)
        _ < 2 ^ 64 := by decide
    rw [← htrips] at hfits ⊢
    exact unrolledCount_of_lt hfits

end Unrolled

/-! ## Bodies that count alike -/

lemma CountsExactly.count_eq {body body' : Body} {groups : Nat} (h : body.CountsExactly groups)
    (h' : body'.CountsExactly groups) (runs : UInt64) : body.count runs = body'.count runs := by
  by_cases hfits : runs.toNat * groups < 2 ^ 64
  · obtain ⟨count, hcount, hvalue⟩ := h.exact runs hfits
    obtain ⟨count', hcount', hvalue'⟩ := h'.exact runs hfits
    rw [hcount, hcount', UInt64.toNat_inj.mp (hvalue.trans hvalue'.symm)]
  · rw [h.overflows runs (Nat.not_lt.mp hfits), h'.overflows runs (Nat.not_lt.mp hfits)]

lemma CountsCapped.count_eq {body body' : Body} {groups : Nat} (h : body.CountsCapped groups)
    (h' : body'.CountsCapped groups) (runs : UInt64) : body.count runs = body'.count runs := by
  obtain ⟨count, hcount, hvalue⟩ := h.capped runs
  obtain ⟨count', hcount', hvalue'⟩ := h'.capped runs
  rw [hcount, hcount', UInt64.toNat_inj.mp (hvalue.trans hvalue'.symm)]

end Body

/-! ## Families -/

/-- Both bodies of a probe report the same for every number of iterations. -/
def Probe.CountsAlike (probe : Probe) : Prop :=
  ∀ runs, probe.throughput.count runs = probe.latency.count runs

/-- The bodies of a family execute ten groups or more in every iteration and count them in a given way;
the two of a row execute equally many and count alike. -/
def Family.Unrolls (Counts : Body → Nat → Prop) (family : Family) : Prop :=
  (∃ groups, 10 ≤ groups ∧ Counts family.warmup groups) ∧
    ∀ probe ∈ family.probes, probe.CountsAlike ∧
      ∃ groups, 10 ≤ groups ∧ Counts probe.throughput groups ∧ Counts probe.latency groups

namespace Probe

/-- How the bodies of a loop count. -/
def Loop.Counts : Loop → Body → Nat → Prop
  | .wide => Body.CountsExactly
  | .narrow => Body.CountsCapped

lemma Loop.Counts.count_eq {loop : Loop} {body body' : Body} {groups : Nat} (h : loop.Counts body groups)
    (h' : loop.Counts body' groups) (runs : UInt64) : body.count runs = body'.count runs :=
  match loop with
  | .wide => Body.CountsExactly.count_eq h h' runs
  | .narrow => Body.CountsCapped.count_eq h h' runs

/-- A row is written down with ten groups or more, and with few enough for either kind of loop. -/
def Row.WellSized (r : Row) : Prop := 10 ≤ r.groups.toNat ∧ r.groups.toNat < 2 ^ 32

instance (r : Row) : Decidable r.WellSized := inferInstanceAs (Decidable (_ ∧ _))

lemma Loop.counts_body (loop : Loop) (label : String) {groups : UInt64} (h : groups.toNat < 2 ^ 32) :
    loop.Counts (loop.body label groups) groups.toNat :=
  match loop with
  | .wide => Body.unrolled_countsExactly label groups
  | .narrow => Body.narrowUnrolled_countsCapped label h

/-- **A family counts as its rows are written down.** -/
lemma family_unrolls (loop : Loop) (title : String) (requires : List Capability) {warmup : Row}
    {rows : List Row} (hwarmup : warmup.WellSized) (hrows : ∀ r ∈ rows, r.WellSized) :
    (family loop title requires warmup rows).Unrolls loop.Counts := by
  constructor
  · exact ⟨warmup.groups.toNat, hwarmup.1, loop.counts_body _ hwarmup.2⟩
  · intro probe hprobe
    obtain ⟨r, hr, rfl⟩ := List.mem_map.mp hprobe
    have hthroughput := loop.counts_body (r.name ++ " throughput") (hrows r hr).2
    have hlatency := loop.counts_body (r.name ++ " latency") (hrows r hr).2
    exact ⟨hthroughput.count_eq hlatency, r.groups.toNat, (hrows r hr).1, hthroughput, hlatency⟩

/-! ## The tables -/

lemma X86.unrolls : ∀ f ∈ X86.catalog, f.Unrolls Body.CountsExactly := by
  simp only [X86.catalog, List.forall_mem_cons]
  exact ⟨family_unrolls .wide _ _ (by decide) (by decide),
    family_unrolls .wide _ _ (by decide) (by decide),
    family_unrolls .wide _ _ (by decide) (by decide),
    family_unrolls .wide _ _ (by decide) (by decide),
    family_unrolls .wide _ _ (by decide) (by decide), nofun⟩

lemma Aarch64.unrolls : ∀ f ∈ Aarch64.catalog, f.Unrolls Body.CountsExactly := by
  simp only [Aarch64.catalog, List.forall_mem_cons]
  exact ⟨family_unrolls .wide _ _ (by decide) (by decide),
    family_unrolls .wide _ _ (by decide) (by decide), nofun⟩

lemma Armv7.unrolls : ∀ f ∈ Armv7.catalog, f.Unrolls Body.CountsCapped := by
  simp only [Armv7.catalog, List.forall_mem_cons]
  exact ⟨family_unrolls .narrow _ _ (by decide) (by decide), nofun⟩

/-- A result is normalised by what both bodies of a probe report: its figures are the times that they took from
a clock on, over this one count. -/
structure Normalised (probe : Probe) (runs : UInt64) (c : Clock) (timed : Timed) : Prop where
  same : timed.throughputOperations = timed.latencyOperations
  reported : probe.throughput.count runs = .ok timed.throughputOperations
  throughput : timed.throughputOperations ≠ 0 → timed.result.throughputNs =
    Span.toNanoseconds (probe.throughput.lap c).1 / timed.throughputOperations.toFloat
  latency : timed.latencyOperations ≠ 0 → timed.result.latencyNs =
    Span.toNanoseconds (probe.latency.lap (probe.throughput.lap c).2).1 / timed.latencyOperations.toFloat

/-- Both figures of a probe whose bodies count alike are normalised by the same count. -/
lemma CountsAlike.normalised {probe : Probe} (h : probe.CountsAlike) {runs : UInt64} {b after : Bench}
    {timed : Timed} (hrun : (Runner.measure probe runs).on b = (.ok timed, after)) :
    probe.Normalised runs b.clock timed := by
  rcases hthroughput : probe.throughput.count runs with fault | groups
  · rw [Runner.measure_of_error hthroughput] at hrun
    cases hrun
  · have hlatency : probe.latency.count runs = .ok groups := (h runs).symm.trans hthroughput
    rw [Runner.measure_of_ok hthroughput hlatency] at hrun
    cases hrun
    have hgroups : probe.throughput.groups runs = groups := Body.groups_of_ok hthroughput
    have hsame : probe.throughput.groups runs = probe.latency.groups runs :=
      hgroups.trans (Body.groups_of_ok hlatency).symm
    exact ⟨hsame, hthroughput.trans (congrArg Except.ok hgroups.symm), fun hne => if_neg hne, fun hne => if_neg hne⟩

/-- **The two bodies of a row report the same**, in each of the three tables and for every number of
iterations, so both figures of the row are normalised by the same count: each is the time of its body over
this count, where that is not zero.  A loop with a 64-bit counter reports the exact count or overflows; one
with a 32-bit counter reports the exact count of the iterations that it can run, and never overflows.  The
same holds of the warmups. -/
theorem bodies_count_alike :
    (∀ f ∈ X86.catalog ++ Aarch64.catalog, f.Unrolls Body.CountsExactly) ∧
    (∀ f ∈ Armv7.catalog, f.Unrolls Body.CountsCapped) ∧
    ∀ f ∈ X86.catalog ++ Aarch64.catalog ++ Armv7.catalog, ∀ probe ∈ f.probes,
      ∀ runs b timed after, (Runner.measure probe runs).on b = (.ok timed, after) →
        timed.throughputOperations = timed.latencyOperations ∧ probe.Normalised runs b.clock timed := by
  have hwide : ∀ f ∈ X86.catalog ++ Aarch64.catalog, f.Unrolls Body.CountsExactly :=
    List.forall_mem_append.mpr ⟨X86.unrolls, Aarch64.unrolls⟩
  refine ⟨hwide, Armv7.unrolls, ?_⟩
  intro f hf probe hprobe runs b timed after hrun
  have halike : probe.CountsAlike := by
    obtain hf | hf := List.mem_append.mp hf
    · exact ((hwide f hf).2 probe hprobe).1
    · exact ((Armv7.unrolls f hf).2 probe hprobe).1
  have hnormalised := halike.normalised hrun
  exact ⟨hnormalised.same, hnormalised⟩

end Probe

end OpTiming
