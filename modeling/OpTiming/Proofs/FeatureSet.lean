import Mathlib.Data.List.Basic
import Mathlib.Data.Nat.Bitwise
import OpTiming.FeatureSet
import OpTiming.Proofs.Capability
import OpTiming.Probe

/-!
# Guards

What was found is packed into a word, one bit for each capability.  Packing loses nothing: a bit of the
word is set iff a listed capability stands at its place (`testBit_pack`), so a set holds exactly what it
was made from (`found_pack`).

The three ways in which a guard is decided agree: all listed capabilities are supported
(`supportsAll`), none is missing (`firstMissing?`), and — for the guard of a family followed by the
guard of one of its probes — the two halves are decided one after the other.

Sets are compared by what they support, whatever was found and whatever the threshold: a set is
**`Within`** another one that supports all that it supports.  A guard that the smaller set meets is met
by the larger one.
-/

namespace OpTiming

namespace FeatureSet

/-! ## The word of a set -/

/-- A bit is set by packing iff it was set before or belongs to a listed capability. -/
lemma testBit_pack (mask : UInt32) (caps : List Capability) (n : Nat) :
    (pack mask caps).toNat.testBit n = true ↔
      mask.toNat.testBit n = true ∨ ∃ cap ∈ caps, cap.ordinal = n := by
  induction caps generalizing mask with
  | nil => simp [pack]
  | cons cap caps ih =>
    have hpack : pack mask (cap :: caps) = pack (mask ||| cap.bit) caps := rfl
    rw [hpack, ih, UInt32.toNat_or, Capability.toNat_bit, Nat.testBit_or, Nat.testBit_two_pow,
      Bool.or_eq_true, decide_eq_true_eq, List.exists_mem_cons_iff, or_assoc]

lemma found_eq_testBit (s : FeatureSet) (cap : Capability) :
    s.found cap = s.mask.toNat.testBit cap.ordinal := by
  rw [found, Bool.eq_iff_iff, bne_iff_ne, ne_eq, ← UInt32.toNat_inj, UInt32.toNat_and,
    Capability.toNat_bit, Nat.and_two_pow, UInt32.toNat_zero]
  cases s.mask.toNat.testBit cap.ordinal <;> simp

/-- **A set holds what it was made from**, under any threshold. -/
@[simp] lemma found_pack (caps : List Capability) (threshold : Option Capability) (cap : Capability) :
    found ⟨pack 0 caps, threshold⟩ cap = caps.contains cap := by
  rw [found_eq_testBit, Bool.eq_iff_iff, testBit_pack, List.contains_iff_mem]
  constructor
  · rintro (hzero | ⟨other, hother, hordinal⟩)
    · simp at hzero
    · exact Capability.ordinal_injective hordinal ▸ hother
  · exact fun hcap => .inr ⟨cap, hcap, rfl⟩

/-! ## Guards -/

variable (s : FeatureSet)

@[simp] lemma supportsAll_append (caps caps' : List Capability) :
    s.supportsAll (caps ++ caps') = (s.supportsAll caps && s.supportsAll caps') := by
  simp [supportsAll]

lemma supportsAll_iff {s : FeatureSet} {caps : List Capability} :
    s.supportsAll caps = true ↔ ∀ cap ∈ caps, s.supports cap = true := by
  simp [supportsAll]

lemma firstMissing?_append (caps caps' : List Capability) :
    s.firstMissing? (caps ++ caps') = (s.firstMissing? caps).or (s.firstMissing? caps') := by
  simp [firstMissing?, List.find?_append]

lemma firstMissing?_eq_none_iff {s : FeatureSet} {caps : List Capability} :
    s.firstMissing? caps = Option.none ↔ s.supportsAll caps = true := by
  simp [firstMissing?, supportsAll]

/-- A capability is supported iff it was found and stands below the threshold. -/
lemma supports_iff {s : FeatureSet} {cap : Capability} :
    s.supports cap = true ↔
      s.found cap = true ∧ ∀ t, s.threshold = some t → cap.ordinal < t.ordinal := by
  rw [supports]
  cases s.threshold with
  | none => simp [below]
  | some t => simp [below, and_comm]

/-- **A restricted set** supports what was listed and stands below the threshold. -/
lemma supports_restrict_ofList_iff {caps : List Capability} {threshold : Option Capability}
    {cap : Capability} :
    ((ofList caps).restrict threshold).supports cap = true ↔
      cap ∈ caps ∧ ∀ t, threshold = some t → cap.ordinal < t.ordinal := by
  cases threshold with
  | none => simp [restrict, supports, ofList, below]
  | some t => simp [restrict, disabledFrom, supports, ofList, below, and_comm]

/-- All that a set supports is supported by another one. -/
def Within (s s' : FeatureSet) : Prop := ∀ cap, s.supports cap = true → s'.supports cap = true

lemma Within.supportsAll {s s' : FeatureSet} (h : s.Within s') {caps : List Capability}
    (hcaps : s.supportsAll caps = true) : s'.supportsAll caps = true := by
  rw [supportsAll_iff] at hcaps ⊢
  exact fun cap hcap => h cap (hcaps cap hcap)

lemma disabledFrom_within_disabledFrom {s : FeatureSet} {c d : Capability} (h : c.ordinal ≤ d.ordinal) :
    (s.disabledFrom c).Within (s.disabledFrom d) := by
  intro cap hcap
  rw [supports_iff] at hcap ⊢
  obtain ⟨hfound, hbelow⟩ := hcap
  refine ⟨hfound, ?_⟩
  rintro t ⟨⟩
  exact Nat.lt_of_lt_of_le (hbelow c rfl) h

/-- A first threshold only takes away. -/
lemma disabledFrom_within_ofList {caps : List Capability} {c : Capability} :
    ((ofList caps).disabledFrom c).Within (ofList caps) := by
  intro cap hcap
  rw [supports_iff] at hcap ⊢
  exact ⟨hcap.1, nofun⟩

end FeatureSet

/-- Whether a set supports all that a probe of a family needs. -/
def Family.admits (family : Family) (features : FeatureSet) (probe : Probe) : Bool :=
  features.supportsAll family.requires && features.supportsAll probe.requires

namespace Family

lemma admits_eq_supportsAll_needs (family : Family) (features : FeatureSet) (probe : Probe) :
    family.admits features probe = features.supportsAll (family.needs probe) := by
  rw [needs, FeatureSet.supportsAll_append, admits]

/-- What a set admits, a larger one admits. -/
lemma admits_of_within {s s' : FeatureSet} (h : s.Within s') {family : Family} {probe : Probe}
    (hadmits : family.admits s probe = true) : family.admits s' probe = true := by
  rw [admits_eq_supportsAll_needs] at hadmits ⊢
  exact h.supportsAll hadmits

end Family

end OpTiming
