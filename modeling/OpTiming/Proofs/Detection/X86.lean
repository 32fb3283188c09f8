import Mathlib.Tactic.Common
import OpTiming.Detection.X86

/-!
# What detection lets through

Instructions on wide registers may only run where the operating system keeps these registers.  Detection
asks for that in one place, `Processor.keeps`, and this file says what is known once it has answered.

* **`Grants`** — the operating system uses the extended control register, and some state is set in it.
  `keeps` decides this (`keeps_iff`), although it reads the register as zero where it may not be read.
* **`test`** — the test of each capability; `mem_detect_iff` says that detection is these tests.
* **`grants_of_mem_detect`** — each capability on wide registers is only found where their state is
  granted, and the widest ones only where leaf 7 is reached as well.
-/

namespace OpTiming.Detection.X86

/-- The operating system uses the extended control register and keeps all of some state. -/
structure Processor.Grants (p : Processor) (state : UInt64) : Prop where
  used : bit (p.leaf 1).ecx 27 = true
  kept : p.xcr0 &&& state = state

variable {p : Processor} {cap : Capability}

/-- The register counts as zero where it may not be read, so nothing but the empty state is kept there. -/
lemma keeps_iff {state : UInt64} (hstate : state ≠ 0) : p.keeps state = true ↔ p.Grants state := by
  rw [Processor.keeps, Processor.readableXcr0, beq_iff_eq]
  cases hused : bit (p.leaf 1).ecx 27 with
  | true => exact ⟨fun hkept => ⟨hused, hkept⟩, Processor.Grants.kept⟩
  | false =>
      rw [if_neg Bool.false_ne_true, UInt64.zero_and]
      refine ⟨fun hzero => absurd hzero.symm hstate, fun hgrants => ?_⟩
      rw [hgrants.used] at hused
      cases hused

/-- Where a state is granted, every part of it is. -/
lemma Processor.Grants.mono {state part : UInt64} (h : p.Grants state) (hpart : state &&& part = part) :
    p.Grants part := by
  refine ⟨h.used, ?_⟩
  calc p.xcr0 &&& part = p.xcr0 &&& (state &&& part) := by rw [hpart]
    _ = p.xcr0 &&& state &&& part := (UInt64.and_assoc ..).symm
    _ = part := by rw [h.kept, hpart]

/-! ## The test of each capability -/

/-- Whether leaf 7 is reached. -/
def Processor.reaches7 (p : Processor) : Bool := 7 ≤ (p.leaf 0).eax.toNat

/-- The test of a capability. -/
def test (p : Processor) : Capability → Bool
  | .sse => bit (p.leaf 1).edx 25
  | .sse2 => bit (p.leaf 1).edx 26
  | .sse3 => bit (p.leaf 1).ecx 0
  | .sse41 => bit (p.leaf 1).ecx 19
  | .sse42 => bit (p.leaf 1).ecx 20
  | .avx => p.keeps stateAvx && bit (p.leaf 1).ecx 28
  | .fma => p.keeps stateAvx && bit (p.leaf 1).ecx 12
  | .avx2 => p.reaches7 && p.keeps stateAvx && bit (p.leaf 7).ebx 3 && bit (p.leaf 7).ebx 5 &&
      bit (p.leaf 7).ebx 8
  | .avx512 => p.reaches7 && p.keeps stateAvx512 && bit (p.leaf 7).ebx 16 && bit (p.leaf 7).ebx 30
  | .vnni => p.reaches7 && p.keeps stateAvx512 && bit (p.leaf 7).ebx 16 && bit (p.leaf 7).ebx 17 &&
      bit (p.leaf 7).ebx 30 && bit (p.leaf 7).ebx 31 && bit (p.leaf 7).ecx 11
  | .neon | .dotProd | .i8mm | .bf16 => false

/-- **Detection finds what passes its test.** -/
lemma mem_detect_iff : cap ∈ detect p ↔ test p cap = true := by
  rw [detect, List.mem_map]
  simp only [List.mem_filter, Prod.exists]
  cases cap <;> simp [basicTests, extendedTests, test, Processor.reaches7]

/-! ## Wide registers -/

/-- The capabilities on registers of 256 bits and more. -/
def wide : List Capability := [.avx, .fma, .avx2, .avx512, .vnni]

/-- The capabilities on registers of 512 bits. -/
def widest : List Capability := [.avx512, .vnni]

lemma widest_of_mem_detect (h : cap ∈ detect p) (hcap : cap ∈ widest) :
    7 ≤ (p.leaf 0).eax.toNat ∧ p.Grants stateAvx512 := by
  rw [← keeps_iff (by decide)]
  rw [mem_detect_iff] at h
  simp only [widest, List.mem_cons, List.not_mem_nil, or_false] at hcap
  obtain rfl | rfl := hcap
  · simp only [test, Processor.reaches7, Bool.and_eq_true, decide_eq_true_eq] at h
    exact h.1.1
  · simp only [test, Processor.reaches7, Bool.and_eq_true, decide_eq_true_eq] at h
    exact h.1.1.1.1.1

lemma wide_of_mem_detect (h : cap ∈ detect p) (hcap : cap ∈ wide) : p.Grants stateAvx := by
  by_cases hwidest : cap ∈ widest
  · exact (widest_of_mem_detect h hwidest).2.mono (by decide)
  · rw [← keeps_iff (by decide)]
    rw [mem_detect_iff] at h
    simp only [wide, widest, List.mem_cons, List.not_mem_nil, or_false] at hcap hwidest
    obtain rfl | rfl | rfl | hcap := hcap
    · simp only [test, Bool.and_eq_true] at h
      exact h.1
    · simp only [test, Bool.and_eq_true] at h
      exact h.1
    · simp only [test, Bool.and_eq_true] at h
      exact h.1.1.1.2
    · exact absurd hcap hwidest

end OpTiming.Detection.X86
