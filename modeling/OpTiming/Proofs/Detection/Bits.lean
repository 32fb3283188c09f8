import Mathlib.Data.List.Nodup
import Mathlib.Logic.Function.Basic
import OpTiming.Proofs.Detection.X86

/-!
# The bits that detection goes by

A processor says of itself much more than detection asks for.  The tests look at eight bits of leaf 1, at eight
bits of leaf 7 if the highest leaf reaches it, and at five bits of the extended control register if the
operating system uses it.  Every test asks for bits that are set, and none for one that is clear.

* **`order`** — the capabilities in the order of their tests; **`detect_eq_filter`** says that detection goes
  through them and keeps what passes.  Both relations between two processors are carried over by it from the
  tests to the list.
* **`Agrees`** — two processors cannot be told apart by what is looked at (`test_congr`).
* **`Within`** — all bits that one processor sets are set by another one (`test_mono`).
-/

namespace OpTiming.Detection.X86

/-- The capabilities of x86 processors, in the order of their tests. -/
def order : List Capability := [.sse, .sse2, .sse3, .sse41, .sse42, .avx, .fma, .avx2, .avx512, .vnni]

lemma order_nodup : order.Nodup := by decide

variable {p q : Processor} {cap : Capability}

lemma tests_eq_map (p : Processor) :
    basicTests p ++ extendedTests p = order.map fun cap => (cap, test p cap) := rfl

/-- **Detection goes through the capabilities in order** and keeps those that pass their test. -/
lemma detect_eq_filter (p : Processor) : detect p = order.filter (test p) := by
  rw [detect, tests_eq_map, List.filter_map, List.map_map]
  exact List.map_id _

/-! ## What is looked at -/

/-- Two processors agree on all that detection looks at: on leaf 7 only where it is reached, and on the extended
control register only where it may be read. -/
structure Processor.Agrees (p q : Processor) : Prop where
  basicEdx : ∀ n ∈ [25, 26], bit (p.leaf 1).edx n = bit (q.leaf 1).edx n
  basicEcx : ∀ n ∈ [0, 12, 19, 20, 27, 28], bit (p.leaf 1).ecx n = bit (q.leaf 1).ecx n
  reaches7 : p.reaches7 = q.reaches7
  extendedEbx : p.reaches7 = true →
    ∀ n ∈ [3, 5, 8, 16, 17, 30, 31], bit (p.leaf 7).ebx n = bit (q.leaf 7).ebx n
  extendedEcx : p.reaches7 = true → bit (p.leaf 7).ecx 11 = bit (q.leaf 7).ecx 11
  xcr0 : bit (p.leaf 1).ecx 27 = true → p.xcr0 &&& stateAvx512 = q.xcr0 &&& stateAvx512

namespace Processor.Agrees

/-- Agreement on the widest state is agreement on every part of it. -/
lemma keeps_eq (h : p.Agrees q) {state : UInt64} (hstate : stateAvx512 &&& state = state) :
    p.keeps state = q.keeps state := by
  have hused : bit (p.leaf 1).ecx 27 = bit (q.leaf 1).ecx 27 := h.basicEcx 27 (by decide)
  rw [keeps, keeps, readableXcr0, readableXcr0, ← hused]
  cases hbit : bit (p.leaf 1).ecx 27 with
  | false => rfl
  | true =>
    have hparts : p.xcr0 &&& state = q.xcr0 &&& state := by
      calc p.xcr0 &&& state = p.xcr0 &&& stateAvx512 &&& state := by rw [UInt64.and_assoc, hstate]
        _ = q.xcr0 &&& stateAvx512 &&& state := by rw [h.xcr0 hbit]
        _ = q.xcr0 &&& state := by rw [UInt64.and_assoc, hstate]
    rw [if_pos rfl, if_pos rfl, hparts]

/-- Processors that agree on what is looked at pass the same tests. -/
lemma test_congr (h : p.Agrees q) (cap : Capability) : test p cap = test q cap := by
  have havx : p.keeps stateAvx = q.keeps stateAvx := h.keeps_eq (by decide)
  have havx512 : p.keeps stateAvx512 = q.keeps stateAvx512 := h.keeps_eq (by decide)
  have hedx := h.basicEdx
  have hecx := h.basicEcx
  have hextended := h.extendedEbx
  have hextendedEcx := h.extendedEcx
  simp only [List.forall_mem_cons] at hedx hecx hextended
  cases hreached : p.reaches7 with
  | false =>
    have hreached' : q.reaches7 = false := h.reaches7 ▸ hreached
    cases cap <;> simp [test, *]
  | true =>
    have hreached' : q.reaches7 = true := h.reaches7 ▸ hreached
    cases cap <;> simp [test, *]

end Processor.Agrees

/-! ## More bits -/

/-- Every bit that is set in one of the registers is set in the same register of another leaf. -/
structure Registers.Within (r s : Registers) : Prop where
  eax : ∀ n, bit r.eax n = true → bit s.eax n = true
  ebx : ∀ n, bit r.ebx n = true → bit s.ebx n = true
  ecx : ∀ n, bit r.ecx n = true → bit s.ecx n = true
  edx : ∀ n, bit r.edx n = true → bit s.edx n = true

/-- Every bit that one processor sets, in a leaf or in the extended control register, is set by another one. -/
structure Processor.Within (p q : Processor) : Prop where
  leaf : ∀ n, (p.leaf n).Within (q.leaf n)
  xcr0 : ∀ n, p.xcr0.toNat.testBit n = true → q.xcr0.toNat.testBit n = true

/-- A word with more bits set is no smaller. -/
lemma toNat_le_of_bits {m n : Nat} (h : ∀ i, m.testBit i = true → n.testBit i = true) : m ≤ n := by
  have hand : m &&& n = m := by
    refine Nat.eq_of_testBit_eq fun i => ?_
    rw [Nat.testBit_and]
    cases hbit : m.testBit i with
    | false => rfl
    | true => rw [h i hbit, Bool.and_self]
  exact hand ▸ Nat.and_le_right

namespace Processor.Within

lemma reaches7 (h : p.Within q) (hreached : p.reaches7 = true) : q.reaches7 = true := by
  rw [Processor.reaches7, decide_eq_true_eq] at hreached ⊢
  exact Nat.le_trans hreached (toNat_le_of_bits (h.leaf 0).eax)

/-- A state that is granted stays granted when more bits are set. -/
lemma grants (h : p.Within q) {state : UInt64} (hgrants : p.Grants state) : q.Grants state where
  used := (h.leaf 1).ecx 27 hgrants.used
  kept := by
    rw [← UInt64.toNat_inj, UInt64.toNat_and]
    refine Nat.eq_of_testBit_eq fun n => ?_
    have hkept : (p.xcr0.toNat &&& state.toNat).testBit n = state.toNat.testBit n := by
      rw [← UInt64.toNat_and, hgrants.kept]
    rw [Nat.testBit_and] at hkept ⊢
    cases hbit : state.toNat.testBit n with
    | false => rw [Bool.and_false]
    | true =>
      rw [hbit, Bool.and_true] at hkept
      rw [h.xcr0 n hkept, Bool.and_self]

lemma keeps (h : p.Within q) {state : UInt64} (hstate : state ≠ 0) (hkeeps : p.keeps state = true) :
    q.keeps state = true :=
  (keeps_iff hstate).mpr (h.grants ((keeps_iff hstate).mp hkeeps))

/-- **No test is failed for a bit that is set.** -/
lemma test_mono (h : p.Within q) (htest : test p cap = true) : test q cap = true := by
  have hreached := h.reaches7
  have havx : p.keeps stateAvx = true → q.keeps stateAvx = true := h.keeps (by decide)
  have havx512 : p.keeps stateAvx512 = true → q.keeps stateAvx512 = true := h.keeps (by decide)
  have hedx := (h.leaf 1).edx
  have hecx := (h.leaf 1).ecx
  have hextended := (h.leaf 7).ebx
  have hextendedEcx := (h.leaf 7).ecx
  cases cap <;> simp only [test, Bool.and_eq_true] at htest ⊢ <;> grind

end Processor.Within

/-! ## What is found -/

lemma detect_congr (h : p.Agrees q) : detect p = detect q := by
  rw [detect_eq_filter, detect_eq_filter]
  exact List.filter_congr fun cap _ => h.test_congr cap

lemma detect_mono (h : p.Within q) : (detect p).Sublist (detect q) := by
  rw [detect_eq_filter, detect_eq_filter]
  exact List.monotone_filter_right order fun cap => h.test_mono

/-- Where the operating system does not use the extended control register, any other one will do. -/
lemma agrees_of_unused (hunused : bit (p.leaf 1).ecx 27 = false) (xcr0 : UInt64) :
    p.Agrees { p with xcr0 } where
  basicEdx _ _ := rfl
  basicEcx _ _ := rfl
  reaches7 := rfl
  extendedEbx _ _ _ := rfl
  extendedEcx _ := rfl
  xcr0 hused := absurd hused (by simp [hunused])

/-- Where leaf 7 is not reached, any other one will do. -/
lemma agrees_of_unreached (hunreached : (p.leaf 0).eax.toNat < 7) (registers : Registers) :
    p.Agrees { p with leaf := Function.update p.leaf 7 registers } where
  basicEdx _ _ := by simp
  basicEcx _ _ := by simp
  reaches7 := by simp [Processor.reaches7]
  extendedEbx hreached := absurd hreached (by simp [Processor.reaches7, hunreached])
  extendedEcx hreached := absurd hreached (by simp [Processor.reaches7, hunreached])
  xcr0 _ := rfl

lemma avx512_of_vnni (h : Capability.vnni ∈ detect p) : Capability.avx512 ∈ detect p := by
  rw [mem_detect_iff] at h ⊢
  simp only [test, Bool.and_eq_true] at h ⊢
  obtain ⟨⟨⟨⟨⟨hstate, hebx16⟩, -⟩, hebx30⟩, -⟩, -⟩ := h
  exact ⟨⟨hstate, hebx16⟩, hebx30⟩

/-- **Detection goes by the documented bits, and by set ones.**  No capability is found twice, and none of
another architecture.  Two processors that agree on what is looked at are found to have the same list; the
extended control register is not looked at where the operating system does not use it, nor is leaf 7 where it is
not reached.  Bits that are set in addition never take a capability away.  The widest integer products come only
with the widest registers, and what runs on wide registers is found only where their state is granted. -/
theorem detect_goes_by_bits (p : Processor) :
    (detect p).Nodup ∧
      (∀ cap ∈ detect p, cap ∈ order) ∧
      (∀ q, p.Agrees q → detect p = detect q) ∧
      (bit (p.leaf 1).ecx 27 = false → ∀ xcr0, detect { p with xcr0 } = detect p) ∧
      ((p.leaf 0).eax.toNat < 7 →
        ∀ registers, detect { p with leaf := Function.update p.leaf 7 registers } = detect p) ∧
      (∀ q, p.Within q → (detect p).Sublist (detect q)) ∧
      (Capability.vnni ∈ detect p → Capability.avx512 ∈ detect p) ∧
      (∀ cap ∈ detect p, cap ∈ wide → bit (p.leaf 1).ecx 27 = true ∧ p.xcr0 &&& 0x6 = 0x6) ∧
      ∀ cap ∈ detect p, cap ∈ widest → bit (p.leaf 1).ecx 27 = true ∧ p.xcr0 &&& 0xE6 = 0xE6 := by
  refine ⟨?_, ?_, fun q => detect_congr, fun hunused xcr0 => ?_, fun hunreached registers => ?_,
    fun q => detect_mono, avx512_of_vnni, fun cap hcap hwide => ?_, fun cap hcap hwidest => ?_⟩
  · rw [detect_eq_filter]
    exact order_nodup.filter _
  · intro cap hcap
    rw [detect_eq_filter] at hcap
    exact List.mem_of_mem_filter hcap
  · exact (detect_congr (agrees_of_unused hunused xcr0)).symm
  · exact (detect_congr (agrees_of_unreached hunreached registers)).symm
  · have hgrants := wide_of_mem_detect hcap hwide
    exact ⟨hgrants.used, hgrants.kept⟩
  · have hgrants := (widest_of_mem_detect hcap hwidest).2
    exact ⟨hgrants.used, hgrants.kept⟩

/-- A processor that sets all the bits that are looked at, and some state that the operating system keeps. -/
def Processor.withState (xcr0 : UInt64) : Processor where
  leaf
    | 0 => { Registers.zero with eax := 7 }
    | 1 => { Registers.zero with ecx := 0x18181001, edx := 0x6000000 }
    | 7 => { Registers.zero with ebx := 0xC0030128, ecx := 0x800 }
    | _ => .zero
  xcr0

/-- Where the state of 256 bits is kept and that of 512 bits is not, the bits of the register that stand for other
state make no difference.  Where both are kept, the two widest capabilities are found in addition. -/
theorem detect_goes_by_bits_of_samples :
    let narrow := Processor.withState 0x7
    let full := Processor.withState 0xE7
    (narrow.Agrees (.withState 0x106) ∧ detect narrow = detect (.withState 0x106)) ∧
      (narrow.Within full ∧ (detect narrow).Sublist (detect full)) ∧
      (Capability.vnni ∈ detect full ∧ Capability.avx512 ∈ detect full) ∧
      Capability.avx2 ∈ detect narrow ∧ narrow.xcr0 &&& 0x6 = 0x6 := by
  intro narrow full
  have hagrees : narrow.Agrees (.withState 0x106) :=
    ⟨fun _ _ => rfl, fun _ _ => rfl, rfl, fun _ _ _ => rfl, fun _ => rfl, fun _ => by decide⟩
  have hxcr0 : ∀ n, (7 : Nat).testBit n = true → (231 : Nat).testBit n = true := by
    intro n hbit
    have hand : (7 : Nat) = 7 &&& 231 := by decide
    rw [hand, Nat.testBit_and, Bool.and_eq_true] at hbit
    exact hbit.2
  have hwithin : narrow.Within full :=
    ⟨fun _ => ⟨fun _ => id, fun _ => id, fun _ => id, fun _ => id⟩, hxcr0⟩
  have hvnni : Capability.vnni ∈ detect full := by decide
  have havx2 : Capability.avx2 ∈ detect narrow := by decide
  obtain ⟨-, -, hcongr, -, -, hmono, -, hwide, -⟩ := detect_goes_by_bits narrow
  obtain ⟨-, -, -, -, -, -, hwidest, -, -⟩ := detect_goes_by_bits full
  exact ⟨⟨hagrees, hcongr _ hagrees⟩, ⟨hwithin, hmono _ hwithin⟩, ⟨hvnni, hwidest hvnni⟩, havx2,
    (hwide _ havx2 (by decide)).2⟩

end OpTiming.Detection.X86
