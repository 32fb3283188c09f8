import Mathlib.Algebra.Order.Field.Rat
import Mathlib.Tactic.NormNum
import OpTiming.Preflight.Checks
import OpTiming.Proofs.Probe.Counts

/-!
# The timer check as a worst case

The timer check shares one step of the clock among the fewest operations that any body could report for
the given number of iterations.  It is a worst case for a body if that body reports at least as many:
the error of its figures is then no larger than the one that the check computes.

* **`Covers`** — the check is a worst case for a body that reports a given count.
* **`covers_of_exact`** — it is one for every loop with a 64-bit counter, since a body whose count fits
  64 bits also keeps the product of the check from being cut.
* **`covers_iff_of_capped`** — for a loop with a 32-bit counter it is one only as long as the iterations
  asked for do not outgrow those that the counter can count.  The check knows nothing of that limit.
* **`timer_covers_tables`** puts both together; **`timer_misses_capped_loop`** is a count that the check
  does not cover.
-/

namespace OpTiming.Preflight

open OpTiming.Probe

/-! ## The divisor of the check -/

lemma fewestOperations_toNat (runs : UInt64) :
    (fewestOperations runs).toNat = max (min (runs.toNat * 10) (2 ^ 64 - 1)) 1 := by
  rw [fewestOperations, UInt64.toNat_max, saturatingMul_toNat]
  rfl

/-- The error of one step of the clock when it is shared among so many operations, as an exact ratio. -/
def stepError (step : ℚ) (operations : UInt64) : ℚ := step / operations.toNat

/-- **A worst case.**  The check assumes no more operations than a body reports, so it computes no smaller
an error than the body's own. -/
def Covers (runs count : UInt64) : Prop :=
  fewestOperations runs ≤ count ∧
    ∀ step, 0 ≤ step → stepError step count ≤ stepError step (fewestOperations runs)

lemma covers_iff {runs count : UInt64} :
    Covers runs count ↔ max (min (runs.toNat * 10) (2 ^ 64 - 1)) 1 ≤ count.toNat := by
  rw [Covers, UInt64.le_iff_toNat_le, fewestOperations_toNat]
  constructor
  · exact fun h => h.1
  · intro h
    refine ⟨h, ?_⟩
    intro step hstep
    rw [stepError, stepError, fewestOperations_toNat]
    have hpositive : (0 : ℚ) < (max (min (runs.toNat * 10) (2 ^ 64 - 1)) 1 : ℕ) := by
      exact_mod_cast Nat.lt_of_lt_of_le Nat.zero_lt_one (Nat.le_max_right _ _)
    exact div_le_div_of_nonneg_left hstep hpositive (by exact_mod_cast h)

/-! ## The two kinds of loop -/

section Loops

variable {body : Body} {groups : Nat} {runs count : UInt64}

/-- A count that fits 64 bits is the product, and the product of the check is no larger. -/
lemma covers_of_exact (h : body.CountsExactly groups) (hgroups : 10 ≤ groups) (hruns : 1 ≤ runs)
    (hcount : body.count runs = .ok count) : Covers runs count := by
  have hone : 1 ≤ runs.toNat := UInt64.le_iff_toNat_le.mp hruns
  have hproduct : runs.toNat * 10 ≤ runs.toNat * groups := Nat.mul_le_mul_left _ hgroups
  rw [covers_iff]
  by_cases hfits : runs.toNat * groups < 2 ^ 64
  · obtain ⟨exact, hexact, hvalue⟩ := h.exact runs hfits
    rw [hexact] at hcount
    cases hcount
    omega
  · rw [h.overflows runs (Nat.not_lt.mp hfits)] at hcount
    cases hcount

/-- Below the limit of the counter this is the exact case again, where both sides hold.  Above it the body
reports the same for any number of iterations, while the check goes on counting. -/
lemma covers_iff_of_capped (h : body.CountsCapped groups) (hgroups : 10 ≤ groups) (hruns : 1 ≤ runs)
    (hcount : body.count runs = .ok count) :
    Covers runs count ↔ min (runs.toNat * 10) (2 ^ 64 - 1) ≤ (2 ^ 32 - 1) * groups := by
  have hone : 1 ≤ runs.toNat := UInt64.le_iff_toNat_le.mp hruns
  obtain ⟨capped, hcapped, hvalue⟩ := h.capped runs
  rw [hcapped] at hcount
  cases hcount
  rw [covers_iff, hvalue]
  obtain hbelow | habove := Nat.le_total runs.toNat (2 ^ 32 - 1)
  · rw [Nat.min_eq_left hbelow]
    have hproduct : runs.toNat * 10 ≤ runs.toNat * groups := Nat.mul_le_mul_left _ hgroups
    have hlimit : runs.toNat * groups ≤ (2 ^ 32 - 1) * groups := Nat.mul_le_mul_right _ hbelow
    omega
  · rw [Nat.min_eq_right habove]
    have hproduct : 10 ≤ (2 ^ 32 - 1) * groups := by omega
    omega

end Loops

/-! ## The tables -/

/-- **Which bodies the timer check covers.**  With a 64-bit counter: every body that returns, for any
number of iterations but zero.  With a 32-bit counter every body returns, and it is covered for so many
iterations iff the product of the check is within what the body reports at the limit of its counter; this
is so for every number of iterations that the counter can count. -/
theorem timer_covers_tables (f : Family) :
    (f ∈ X86.catalog ++ Aarch64.catalog → ∀ probe ∈ f.probes, ∀ body ∈ [probe.throughput, probe.latency],
      ∀ runs count, 1 ≤ runs → body.count runs = .ok count → Covers runs count) ∧
    (f ∈ Armv7.catalog → ∀ probe ∈ f.probes, ∃ groups, 10 ≤ groups ∧
      ∀ body ∈ [probe.throughput, probe.latency], ∀ runs, 1 ≤ runs → ∃ count,
        body.count runs = .ok count ∧
        (Covers runs count ↔ min (runs.toNat * 10) (2 ^ 64 - 1) ≤ (2 ^ 32 - 1) * groups) ∧
        (runs.toNat < 2 ^ 32 → Covers runs count)) := by
  constructor
  · intro hf probe hprobe body hbody runs count hruns hcount
    have hunrolls : f.Unrolls Body.CountsExactly :=
      List.forall_mem_append.mpr ⟨X86.unrolls, Aarch64.unrolls⟩ f hf
    obtain ⟨-, groups, hgroups, hthroughput, hlatency⟩ := hunrolls.2 probe hprobe
    simp only [List.mem_cons, List.not_mem_nil, or_false] at hbody
    obtain rfl | rfl := hbody
    · exact covers_of_exact hthroughput hgroups hruns hcount
    · exact covers_of_exact hlatency hgroups hruns hcount
  · intro hf probe hprobe
    obtain ⟨-, groups, hgroups, hthroughput, hlatency⟩ := (Armv7.unrolls f hf).2 probe hprobe
    refine ⟨groups, hgroups, ?_⟩
    intro body hbody runs hruns
    have hcapped : body.CountsCapped groups := by
      simp only [List.mem_cons, List.not_mem_nil, or_false] at hbody
      obtain rfl | rfl := hbody
      · exact hthroughput
      · exact hlatency
    obtain ⟨count, hcount, -⟩ := hcapped.capped runs
    have hiff := covers_iff_of_capped hcapped hgroups hruns hcount
    refine ⟨count, hcount, hiff, ?_⟩
    intro hbelow
    rw [hiff]
    omega

/-- **The check misses a loop at the limit of its counter.**  Asked for one iteration more than a 32-bit
counter can count, the body of a `nop` reports ten operations fewer than the check assumes, and of a step
of as many nanoseconds as it reports operations the check finds less than the one nanosecond that there is
for each. -/
theorem timer_misses_capped_loop :
    ∃ f ∈ Armv7.catalog, ∃ probe ∈ f.probes, probe.name = "nop" ∧
      probe.throughput.count 4294967296 = .ok 42949672950 ∧
      probe.latency.count 4294967296 = .ok 42949672950 ∧
      42949672950 < fewestOperations 4294967296 ∧
      stepError 42949672950 (fewestOperations 4294967296) < stepError 42949672950 42949672950 ∧
      errorPerOperation 42949672950.0 4294967296 < 42949672950.0 / (42949672950 : UInt64).toFloat := by
  refine ⟨_, List.mem_cons_self, Row.probe .narrow (row "nop" 10 1), List.mem_cons_self, rfl,
    ?_, ?_, ?_, ?_, ?_⟩
  · decide
  · decide
  · decide
  · have hassumed : (fewestOperations 4294967296).toNat = 42949672960 := by decide
    have hreported : (42949672950 : UInt64).toNat = 42949672950 := rfl
    rw [stepError, stepError, hassumed, hreported]
    norm_num
  · decide +kernel

end OpTiming.Preflight
