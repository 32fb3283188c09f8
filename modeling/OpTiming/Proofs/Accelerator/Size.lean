import OpTiming.Accelerator.Workload
import OpTiming.Proofs.Accelerator.Division
import OpTiming.Proofs.Fault

/-!
# Sizes of compute workloads

A compute workload gets as many work-items as its output has elements, and the output fills a power of two
bytes.  Rounding down to a power of two loses less than half, and it is what makes everything after it come
out even: of two powers of two the smaller one divides the larger one, so neither the division by the size
of an element nor the cut to whole work-groups loses anything more.

* **`IsRounded`** — what rounding down to a power of two gives, said without a formula.
* **`isRounded_roundToPower2`** — the rounding does that.
* **`Fits`** — what a number of work-items has to do with the device it was made for.
* **`computeSize_outcome`** — when there is such a number, and which one it is.
-/

namespace OpTiming.Accelerator

/-! ## Powers of two -/

section PowersOfTwo

variable {a b : Nat}

lemma dvd_of_isPowerOfTwo (ha : a.isPowerOfTwo) (hb : b.isPowerOfTwo) (hle : a ≤ b) : a ∣ b := by
  obtain ⟨k, rfl⟩ := ha
  obtain ⟨l, rfl⟩ := hb
  exact Nat.pow_dvd_pow 2 ((Nat.pow_le_pow_iff_right (by omega)).mp hle)

lemma isPowerOfTwo_mul (ha : a.isPowerOfTwo) (hb : b.isPowerOfTwo) : (a * b).isPowerOfTwo := by
  obtain ⟨k, rfl⟩ := ha
  obtain ⟨l, rfl⟩ := hb
  exact ⟨k + l, (Nat.pow_add 2 k l).symm⟩

/-- A power of two divided by one that is not larger is a power of two. -/
lemma isPowerOfTwo_div (ha : a.isPowerOfTwo) (hb : b.isPowerOfTwo) (hle : a ≤ b) :
    (b / a).isPowerOfTwo := by
  obtain ⟨k, rfl⟩ := ha
  obtain ⟨l, rfl⟩ := hb
  have hexponent : k ≤ l := (Nat.pow_le_pow_iff_right (by omega)).mp hle
  exact ⟨l - k, Nat.pow_div hexponent (by omega)⟩

end PowersOfTwo

/-! ## Rounding -/

/-- A number was rounded down to a power of two: it is the largest one that is not above, or zero if there
was nothing to round. -/
def IsRounded (bound count : Nat) : Prop :=
  bound = 0 ∧ count = 0 ∨ IsGreatest {power : Nat | power.isPowerOfTwo ∧ power ≤ bound} count

namespace IsRounded

variable {bound count power : Nat}

lemma le (h : IsRounded bound count) : count ≤ bound := by
  obtain ⟨rfl, rfl⟩ | hgreatest := h
  · exact Nat.le_refl 0
  · exact hgreatest.1.2

lemma zero_or_isPowerOfTwo (h : IsRounded bound count) : count = 0 ∨ count.isPowerOfTwo := by
  obtain ⟨-, hzero⟩ | hgreatest := h
  · exact .inl hzero
  · exact .inr hgreatest.1.1

lemma isPowerOfTwo (h : IsRounded bound count) (hbound : bound ≠ 0) : count.isPowerOfTwo := by
  obtain ⟨hzero, -⟩ | hgreatest := h
  · exact absurd hzero hbound
  · exact hgreatest.1.1

/-- No power of two is lost that was not above. -/
lemma le_of_isPowerOfTwo (h : IsRounded bound count) (hpower : power.isPowerOfTwo)
    (hle : power ≤ bound) : power ≤ count := by
  obtain ⟨rfl, -⟩ | hgreatest := h
  · exact absurd (Nat.pos_of_isPowerOfTwo hpower) (Nat.not_lt.mpr hle)
  · exact hgreatest.2 ⟨hpower, hle⟩

/-- **Rounding loses less than half.** -/
lemma lt_two_mul (h : IsRounded bound count) (hbound : bound ≠ 0) : bound < 2 * count := by
  have hpower := h.isPowerOfTwo hbound
  have hpositive := Nat.pos_of_isPowerOfTwo hpower
  by_contra hle
  -- twice the power would not be above either
  have hdouble := h.le_of_isPowerOfTwo (Nat.isPowerOfTwo_mul_two_of_isPowerOfTwo hpower) (by omega)
  omega

end IsRounded

lemma toNat_roundToPower2 {n : UInt64} (hn : n ≠ 0) : (roundToPower2 n).toNat = 2 ^ n.toNat.log2 := by
  have hle : 2 ^ n.toNat.log2 ≤ n.toNat := Nat.log2_self_le (toNat_pos hn).ne'
  rw [roundToPower2, if_neg hn]
  exact UInt64.toNat_ofNat_of_lt' (Nat.lt_of_le_of_lt hle n.toNat_lt)

/-- **Rounding gives the largest power of two** that is not above. -/
lemma isRounded_roundToPower2 (n : UInt64) : IsRounded n.toNat (roundToPower2 n).toNat := by
  by_cases hn : n = 0
  · subst hn
    exact .inl ⟨rfl, rfl⟩
  · have hpositive : n.toNat ≠ 0 := (toNat_pos hn).ne'
    rw [toNat_roundToPower2 hn]
    refine .inr ⟨⟨⟨_, rfl⟩, Nat.log2_self_le hpositive⟩, ?_⟩
    rintro _ ⟨⟨exponent, rfl⟩, hle⟩
    exact Nat.pow_le_pow_right (by omega) ((Nat.le_log2 hpositive).mpr hle)

/-! ## The number of work-items -/

/-- The number of work-items that a device has room for at a time, counted exactly. -/
def allItems (d : Device) : Nat := d.computeUnits.toNat * 2048 * d.workGroup.toNat

/-- The bytes that the output of so many work-items may fill. -/
def outputBytes (d : Device) (elementSize : UInt64) : Nat :=
  min (allItems d * elementSize.toNat) d.maxAllocation.toNat

variable {d : Device} {elementSize size : UInt64}

/-- There are fewer than `2 ^ 32` compute units, so the first product always fits. -/
lemma checkedMul_itemsPerUnit (d : Device) :
    ∃ perGroup, checkedMul d.computeUnits.toUInt64 itemsPerUnit = .ok perGroup ∧
      perGroup.toNat = d.computeUnits.toNat * 2048 := by
  have hunits : d.computeUnits.toNat < 2 ^ 32 := d.computeUnits.toNat_lt
  have hvalue : d.computeUnits.toUInt64.toNat * itemsPerUnit.toNat = d.computeUnits.toNat * 2048 := by
    rw [UInt32.toNat_toUInt64]
    rfl
  rw [← hvalue]
  exact checkedMul_of_lt (by omega)

/-- The items alone fit where the bytes do, since an element has at least one byte. -/
lemma allItems_le (hsize : elementSize ≠ 0) : allItems d ≤ allItems d * elementSize.toNat :=
  Nat.le_mul_of_pos_right _ (toNat_pos hsize)

lemma computeSize_of_le (h : 2 ^ 64 ≤ allItems d * elementSize.toNat) :
    computeSize d elementSize = .error .multiplyOverflow := by
  obtain ⟨perGroup, hperGroup, hvalue⟩ := checkedMul_itemsPerUnit d
  rw [computeSize, hperGroup, ok_bind]
  have hitems : perGroup.toNat * d.workGroup.toNat = allItems d := by rw [hvalue, allItems]
  by_cases hfits : allItems d < 2 ^ 64
  · obtain ⟨items, hok, hcount⟩ := checkedMul_of_lt (hitems ▸ hfits)
    rw [hok, ok_bind, checkedMul_of_le (by rwa [hcount, hitems]), error_bind]
  · rw [checkedMul_of_le (by rw [hitems]; omega), error_bind]

lemma computeSize_of_lt (hsize : elementSize ≠ 0) (h : allItems d * elementSize.toNat < 2 ^ 64) :
    ∃ size rounded, computeSize d elementSize = .ok size ∧
      IsRounded (outputBytes d elementSize) rounded ∧ size.toNat = rounded / elementSize.toNat := by
  obtain ⟨perGroup, hperGroup, hvalue⟩ := checkedMul_itemsPerUnit d
  have hitems : perGroup.toNat * d.workGroup.toNat = allItems d := by rw [hvalue, allItems]
  have hfits : perGroup.toNat * d.workGroup.toNat < 2 ^ 64 :=
    hitems ▸ Nat.lt_of_le_of_lt (allItems_le hsize) h
  obtain ⟨items, hok, hcount⟩ := checkedMul_of_lt hfits
  rw [hitems] at hcount
  obtain ⟨bytes, hbytes, htotal⟩ := checkedMul_of_lt (hcount ▸ h)
  rw [hcount] at htotal
  obtain ⟨size, hquotient, hsizeValue⟩ :=
    checkedDiv_of_ne (roundToPower2 (min bytes d.maxAllocation)) hsize
  have houtput : (min bytes d.maxAllocation).toNat = outputBytes d elementSize := by
    rw [UInt64.toNat_min, htotal, outputBytes]
  refine ⟨size, _, ?_, houtput ▸ isRounded_roundToPower2 _, hsizeValue⟩
  rw [computeSize, hperGroup, ok_bind, hok, ok_bind, hbytes, ok_bind]
  exact hquotient

/-! ## What the number of work-items is good for -/

/-- What a number of work-items has to do with a device and the size of an element. -/
structure Fits (d : Device) (elementSize size : UInt64) : Prop where
  /-- The output fits one allocation. -/
  allocation : size.toNat * elementSize.toNat ≤ d.maxAllocation.toNat
  items : size.toNat ≤ allItems d
  power : elementSize.toNat.isPowerOfTwo → size = 0 ∨ size.toNat.isPowerOfTwo
  /-- More than half of the bytes that the output may fill are filled, if one element fits them. -/
  half : elementSize.toNat.isPowerOfTwo → elementSize.toNat ≤ outputBytes d elementSize →
    outputBytes d elementSize < 2 * size.toNat * elementSize.toNat
  /-- No work-item is left over by work-groups of a power of two. -/
  undivided : elementSize.toNat.isPowerOfTwo → ∀ group : UInt64, group.toNat.isPowerOfTwo →
    group ≤ size → Range.divideDown (.d1 size) (.d1 group) = .ok (.d1 size)

variable {rounded : Nat}

/-- A power of two is divided evenly, or by something larger. -/
lemma zero_or_isPowerOfTwo_div (hrounded : rounded = 0 ∨ rounded.isPowerOfTwo)
    (hsize : elementSize.toNat.isPowerOfTwo) :
    rounded / elementSize.toNat = 0 ∨ (rounded / elementSize.toNat).isPowerOfTwo := by
  by_cases hle : elementSize.toNat ≤ rounded
  · have hpositive := Nat.pos_of_isPowerOfTwo hsize
    obtain hzero | hpower := hrounded
    · omega
    · exact .inr (isPowerOfTwo_div hsize hpower hle)
  · exact .inl (Nat.div_eq_of_lt (Nat.not_le.mp hle))

lemma divideDown_isPowerOfTwo {group : UInt64} (hsize : size.toNat.isPowerOfTwo)
    (hgroup : group.toNat.isPowerOfTwo) (hle : group ≤ size) :
    Range.divideDown (.d1 size) (.d1 group) = .ok (.d1 size) := by
  have hnonzero : group ≠ 0 := by
    rintro rfl
    exact absurd (Nat.pos_of_isPowerOfTwo hgroup) (by decide)
  have hdvd : group.toNat ∣ size.toNat :=
    dvd_of_isPowerOfTwo hgroup hsize (UInt64.le_iff_toNat_le.mp hle)
  have hcut : size / group * group = size := by
    apply UInt64.toNat_inj.mp
    rw [Range.toNat_cut, Nat.div_mul_cancel hdvd]
  rw [Range.divideDown_d1 size hnonzero, hcut]

lemma fits_of_isRounded (hrounded : IsRounded (outputBytes d elementSize) rounded)
    (hsize : elementSize ≠ 0) (hvalue : size.toNat = rounded / elementSize.toNat) :
    Fits d elementSize size := by
  have hpositive := toNat_pos hsize
  have hbytes : size.toNat * elementSize.toNat ≤ outputBytes d elementSize := by
    rw [hvalue]
    exact Nat.le_trans (Nat.div_mul_le_self ..) hrounded.le
  have hpower (helement : elementSize.toNat.isPowerOfTwo) : size = 0 ∨ size.toNat.isPowerOfTwo := by
    obtain hzero | hpower := zero_or_isPowerOfTwo_div hrounded.zero_or_isPowerOfTwo helement
    · exact .inl (UInt64.toNat_inj.mp (hvalue.trans hzero))
    · exact .inr (hvalue ▸ hpower)
  refine ⟨Nat.le_trans hbytes (Nat.min_le_right ..), ?_, hpower, ?_, ?_⟩
  · exact Nat.le_of_mul_le_mul_right (Nat.le_trans hbytes (Nat.min_le_left ..)) hpositive
  · intro helement hle
    have hbound : outputBytes d elementSize ≠ 0 := by omega
    -- an element is a power of two that was not above, so it divides what was rounded
    have hdvd : elementSize.toNat ∣ rounded :=
      dvd_of_isPowerOfTwo helement (hrounded.isPowerOfTwo hbound) (hrounded.le_of_isPowerOfTwo helement hle)
    rw [Nat.mul_assoc, hvalue, Nat.div_mul_cancel hdvd]
    exact hrounded.lt_two_mul hbound
  · intro helement group hgroup hle
    obtain rfl | hsizePower := hpower helement
    · have hzero : group.toNat ≤ 0 := UInt64.le_iff_toNat_le.mp hle
      exact absurd (Nat.pos_of_isPowerOfTwo hgroup) (Nat.not_lt.mpr hzero)
    · exact divideDown_isPowerOfTwo hsizePower hgroup hle

/-- **How many work-items a compute workload gets.**  The bytes of all items decide whether they can be
counted.  If they can, the bytes that the output may fill are rounded down to a power of two and divided
among the elements; what comes out fits the allocation and the device.  All element types have a power of
two bytes, and for these it is zero or a power of two itself, uses more than half of the bytes if they hold an
element, and falls into work-groups of any smaller power of two. -/
theorem computeSize_outcome (d : Device) (elementSize : UInt64) (hsize : elementSize ≠ 0) :
    (computeSize d elementSize = .error .multiplyOverflow ↔ 2 ^ 64 ≤ allItems d * elementSize.toNat) ∧
      (allItems d * elementSize.toNat < 2 ^ 64 → ∃ size rounded, computeSize d elementSize = .ok size ∧
        IsRounded (outputBytes d elementSize) rounded ∧ size.toNat = rounded / elementSize.toNat ∧
        Fits d elementSize size) ∧
      ∀ element : ElementType, element.size.toNat.isPowerOfTwo := by
  refine ⟨⟨fun herror => ?_, computeSize_of_le⟩, fun hlt => ?_, fun element => ?_⟩
  · by_contra hlt
    obtain ⟨size, rounded, hok, -⟩ := computeSize_of_lt hsize (Nat.not_le.mp hlt)
    rw [hok] at herror
    cases herror
  · obtain ⟨size, rounded, hok, hrounded, hvalue⟩ := computeSize_of_lt hsize hlt
    exact ⟨size, rounded, hok, hrounded, hvalue, fits_of_isRounded hrounded hsize hvalue⟩
  · cases element with
    | int => exact ⟨2, rfl⟩
    | float => exact ⟨2, rfl⟩
    | half => exact ⟨1, rfl⟩
    | double => exact ⟨3, rfl⟩

/-- A device of one unit with work-groups of one has room for 2048 items.  Elements of `2 ^ 53` bytes are the
smallest that its items cannot be counted with, and four-byte elements are limited by an allocation of 4099
bytes, of which 4096 are used. -/
theorem computeSize_outcome_of_sample :
    let d : Device := ⟨"gpu", "1.0", "", 1, 1, 4099, 8192, 500, false, false⟩
    computeSize d 9007199254740992 = .error .multiplyOverflow ∧
      ∃ size rounded, computeSize d 4 = .ok size ∧ IsRounded (outputBytes d 4) rounded ∧
        size.toNat = rounded / 4 ∧ Fits d 4 size := by
  intro d
  have hlarge := computeSize_outcome d 9007199254740992 (by decide)
  have hsmall := computeSize_outcome d 4 (by decide)
  exact ⟨hlarge.1.mpr (by decide), hsmall.2.1 (by decide)⟩

end OpTiming.Accelerator
