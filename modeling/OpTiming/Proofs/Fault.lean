import Mathlib.Algebra.BigOperators.Group.List.Basic
import Mathlib.Algebra.Ring.Nat
import Mathlib.Data.List.Forall2
import Mathlib.Tactic.Common
import OpTiming.Fault

/-!
# Counting in 64 bits

What the checked and the saturating operations give, said in natural numbers.  A checked operation
gives the exact result or stops, and there is no third case: for each of them the bound below which it
is exact is the bound from which on it stops.

* **`checkedMul_of_lt`**, **`checkedMul_of_le`** — the two cases of a product.
* **`foldlM_checkedAdd_of_lt`**, **`foldlM_checkedAdd_of_le`** — the two cases of a sum of several
  counts.  It is added from the left, but only the total decides: counts are not negative, so a partial
  sum that does not fit makes a total that does not fit either.
* **`foldlM_checkedMul_of_lt`**, **`foldlM_checkedMul_of_le`** — the two cases of a product of several
  counts.  Here every partial product decides, since a zero later on makes a total that fits again.
* **`checkedSub_of_le`**, **`checkedDiv_of_ne`** — a difference that is not below zero and a quotient by
  something are exact.
* **`saturatingMul_toNat`** — a saturating product is the exact one, cut at the largest count.
-/

namespace OpTiming

/-! ## Steps one after the other -/

@[simp] lemma ok_bind {ε α β : Type} (x : α) (next : α → Except ε β) : (Except.ok x >>= next) = next x := rfl

@[simp] lemma error_bind {ε α β : Type} (fault : ε) (next : α → Except ε β) :
    ((Except.error fault : Except ε α) >>= next) = .error fault := rfl

/-! ## Products -/

lemma checkedMul_of_lt {a b : UInt64} (h : a.toNat * b.toNat < 2 ^ 64) :
    ∃ count, checkedMul a b = .ok count ∧ count.toNat = a.toNat * b.toNat := by
  refine ⟨a * b, if_pos h, ?_⟩
  rw [UInt64.toNat_mul, Nat.mod_eq_of_lt h]

lemma checkedMul_of_le {a b : UInt64} (h : 2 ^ 64 ≤ a.toNat * b.toNat) :
    checkedMul a b = .error .multiplyOverflow :=
  if_neg (Nat.not_lt.mpr h)

lemma saturatingMul_toNat (a b : UInt64) :
    (saturatingMul a b).toNat = min (a.toNat * b.toNat) (2 ^ 64 - 1) := by
  rw [saturatingMul]
  split
  · next hfits =>
    have hlt : a.toNat * b.toNat < 2 ^ 64 := hfits
    rw [UInt64.toNat_mul, Nat.mod_eq_of_lt hlt]
    omega
  · next hfits =>
    have hle : 2 ^ 64 ≤ a.toNat * b.toNat := Nat.not_lt.mp hfits
    have hlargest : (UInt64.ofNat (UInt64.size - 1)).toNat = 2 ^ 64 - 1 := rfl
    rw [hlargest]
    omega

/-! ## Sums -/

lemma checkedAdd_of_lt {a b : UInt64} (h : a.toNat + b.toNat < 2 ^ 64) :
    ∃ count, checkedAdd a b = .ok count ∧ count.toNat = a.toNat + b.toNat := by
  refine ⟨a + b, if_pos h, ?_⟩
  rw [UInt64.toNat_add, Nat.mod_eq_of_lt h]

lemma checkedAdd_of_le {a b : UInt64} (h : 2 ^ 64 ≤ a.toNat + b.toNat) :
    checkedAdd a b = .error .addOverflow :=
  if_neg (Nat.not_lt.mpr h)

/-- The exact sum of several counts. -/
def exactSum (counts : List UInt64) : Nat := (counts.map UInt64.toNat).sum

@[simp] lemma exactSum_nil : exactSum [] = 0 := rfl

@[simp] lemma exactSum_cons (count : UInt64) (counts : List UInt64) :
    exactSum (count :: counts) = count.toNat + exactSum counts := by
  simp [exactSum]

lemma foldlM_checkedAdd_of_lt {counts : List UInt64} {start : UInt64}
    (h : start.toNat + exactSum counts < 2 ^ 64) :
    ∃ count, counts.foldlM checkedAdd start = .ok count ∧ count.toNat = start.toNat + exactSum counts := by
  induction counts generalizing start with
  | nil => exact ⟨start, rfl, rfl⟩
  | cons first rest ih =>
    rw [exactSum_cons] at h
    have hfirst : start.toNat + first.toNat < 2 ^ 64 := by omega
    obtain ⟨next, hnext, hvalue⟩ := checkedAdd_of_lt hfirst
    have hrest : next.toNat + exactSum rest < 2 ^ 64 := by omega
    obtain ⟨count, hcount, hsum⟩ := ih hrest
    refine ⟨count, ?_, by rw [exactSum_cons]; omega⟩
    rw [List.foldlM_cons, hnext]
    exact hcount

/-- The sum stops at the latest when its last count is added, wherever it stops. -/
lemma foldlM_checkedAdd_of_le {counts : List UInt64} {start : UInt64}
    (h : 2 ^ 64 ≤ start.toNat + exactSum counts) :
    counts.foldlM checkedAdd start = .error .addOverflow := by
  induction counts generalizing start with
  | nil =>
    have hstart : start.toNat < 2 ^ 64 := start.toNat_lt
    rw [exactSum_nil] at h
    omega
  | cons first rest ih =>
    rw [exactSum_cons] at h
    rw [List.foldlM_cons]
    by_cases hfirst : start.toNat + first.toNat < 2 ^ 64
    · obtain ⟨next, hnext, hvalue⟩ := checkedAdd_of_lt hfirst
      rw [hnext]
      exact ih (by omega)
    · rw [checkedAdd_of_le (Nat.not_lt.mp hfirst)]
      rfl

/-- A sum that fits is exact. -/
lemma checkedSum_of_lt {counts : List UInt64} (h : exactSum counts < 2 ^ 64) :
    ∃ count, checkedSum counts = .ok count ∧ count.toNat = exactSum counts := by
  have hstart : (0 : UInt64).toNat + exactSum counts < 2 ^ 64 := by simpa using h
  obtain ⟨count, hcount, hvalue⟩ := foldlM_checkedAdd_of_lt hstart
  exact ⟨count, hcount, by simpa using hvalue⟩

lemma checkedSum_of_le {counts : List UInt64} (h : 2 ^ 64 ≤ exactSum counts) :
    checkedSum counts = .error .addOverflow :=
  foldlM_checkedAdd_of_le (by simpa using h)

/-! ## Differences and quotients -/

lemma toNat_pos {count : UInt64} (h : count ≠ 0) : 0 < count.toNat :=
  Nat.pos_of_ne_zero fun hzero => h (UInt64.toNat_inj.mp hzero)

lemma checkedSub_of_le {a b : UInt64} (h : b.toNat ≤ a.toNat) :
    ∃ count, checkedSub a b = .ok count ∧ count.toNat = a.toNat - b.toNat := by
  have hle : b ≤ a := UInt64.le_iff_toNat_le.mpr h
  exact ⟨a - b, if_pos hle, UInt64.toNat_sub_of_le a b hle⟩

lemma toNat_saturatingSub (a b : UInt64) : (saturatingSub a b).toNat = a.toNat - b.toNat := by
  by_cases hle : b ≤ a
  · rw [saturatingSub, if_pos hle, UInt64.toNat_sub_of_le a b hle]
  · have hlt : a.toNat < b.toNat := Nat.lt_of_not_le fun h => hle (UInt64.le_iff_toNat_le.mpr h)
    rw [saturatingSub, if_neg hle]
    exact (Nat.sub_eq_zero_of_le hlt.le).symm

lemma checkedDiv_of_ne (a : UInt64) {b : UInt64} (h : b ≠ 0) :
    ∃ count, checkedDiv a b = .ok count ∧ count.toNat = a.toNat / b.toNat :=
  ⟨a / b, if_neg h, UInt64.toNat_div a b⟩

/-! ## Products of several counts -/

/-- The exact product of several counts. -/
def exactProduct (counts : List UInt64) : Nat := (counts.map UInt64.toNat).prod

@[simp] lemma exactProduct_nil : exactProduct [] = 1 := rfl

@[simp] lemma exactProduct_cons (count : UInt64) (counts : List UInt64) :
    exactProduct (count :: counts) = count.toNat * exactProduct counts := by
  simp [exactProduct]

@[simp] lemma exactProduct_append (counts counts' : List UInt64) :
    exactProduct (counts ++ counts') = exactProduct counts * exactProduct counts' := by
  simp [exactProduct]

/-- A product all of whose parts from the left fit is exact. -/
lemma foldlM_checkedMul_of_lt {counts : List UInt64} {start : UInt64}
    (h : ∀ initial, initial <+: counts → start.toNat * exactProduct initial < 2 ^ 64) :
    ∃ count, counts.foldlM checkedMul start = .ok count ∧
      count.toNat = start.toNat * exactProduct counts := by
  induction counts generalizing start with
  | nil => exact ⟨start, rfl, by simp⟩
  | cons first rest ih =>
    have hfirst : start.toNat * first.toNat < 2 ^ 64 := by
      simpa using h [first] (List.prefix_append ..)
    obtain ⟨next, hnext, hvalue⟩ := checkedMul_of_lt hfirst
    have hrest : ∀ initial, initial <+: rest → next.toNat * exactProduct initial < 2 ^ 64 := by
      intro initial hinitial
      have hlonger := h (first :: initial) (List.cons_prefix_cons.mpr ⟨rfl, hinitial⟩)
      rwa [exactProduct_cons, ← Nat.mul_assoc, ← hvalue] at hlonger
    obtain ⟨count, hcount, hproduct⟩ := ih hrest
    refine ⟨count, ?_, by rw [hproduct, hvalue, exactProduct_cons, Nat.mul_assoc]⟩
    rw [List.foldlM_cons, hnext]
    exact hcount

/-- A product stops where a part from the left does not fit, whatever follows. -/
lemma foldlM_checkedMul_of_le {counts initial : List UInt64} {start : UInt64}
    (hinitial : initial <+: counts) (h : 2 ^ 64 ≤ start.toNat * exactProduct initial) :
    counts.foldlM checkedMul start = .error .multiplyOverflow := by
  induction initial generalizing counts start with
  | nil =>
    have hstart : start.toNat < 2 ^ 64 := start.toNat_lt
    rw [exactProduct_nil] at h
    omega
  | cons first initial ih =>
    obtain ⟨rest, rfl⟩ := hinitial
    rw [List.cons_append, List.foldlM_cons]
    by_cases hfirst : start.toNat * first.toNat < 2 ^ 64
    · obtain ⟨next, hnext, hvalue⟩ := checkedMul_of_lt hfirst
      rw [hnext]
      rw [exactProduct_cons, ← Nat.mul_assoc, ← hvalue] at h
      exact ih (List.prefix_append ..) h
    · rw [checkedMul_of_le (Nat.not_lt.mp hfirst)]
      rfl

lemma foldlM_checkedMul_eq_ok_iff {counts : List UInt64} {start total : UInt64} :
    counts.foldlM checkedMul start = .ok total ↔
      (∀ initial, initial <+: counts → start.toNat * exactProduct initial < 2 ^ 64) ∧
        total.toNat = start.toNat * exactProduct counts := by
  constructor
  · intro htotal
    have hfits : ∀ initial, initial <+: counts → start.toNat * exactProduct initial < 2 ^ 64 := by
      intro initial hinitial
      by_contra hover
      rw [foldlM_checkedMul_of_le hinitial (Nat.not_lt.mp hover)] at htotal
      cases htotal
    obtain ⟨count, hcount, hvalue⟩ := foldlM_checkedMul_of_lt hfits
    obtain rfl : count = total := Except.ok.inj (hcount.symm.trans htotal)
    exact ⟨hfits, hvalue⟩
  · rintro ⟨hfits, hvalue⟩
    obtain ⟨count, hcount, hproduct⟩ := foldlM_checkedMul_of_lt hfits
    obtain rfl : count = total := UInt64.toNat_inj.mp (hproduct.trans hvalue.symm)
    exact hcount

lemma foldlM_checkedMul_eq_error_iff {counts : List UInt64} {start : UInt64} {fault : Fault} :
    counts.foldlM checkedMul start = .error fault ↔
      fault = .multiplyOverflow ∧
        ∃ initial, initial <+: counts ∧ 2 ^ 64 ≤ start.toNat * exactProduct initial := by
  constructor
  · intro hfault
    have hover : ∃ initial, initial <+: counts ∧ 2 ^ 64 ≤ start.toNat * exactProduct initial := by
      by_contra hnone
      push Not at hnone
      obtain ⟨count, hcount, -⟩ := foldlM_checkedMul_of_lt hnone
      rw [hcount] at hfault
      cases hfault
    obtain ⟨initial, hinitial, hle⟩ := hover
    rw [foldlM_checkedMul_of_le hinitial hle] at hfault
    exact ⟨(Except.error.inj hfault).symm, initial, hinitial, hle⟩
  · rintro ⟨rfl, initial, hinitial, hle⟩
    exact foldlM_checkedMul_of_le hinitial hle

/-- Ones change nothing of a product. -/
lemma foldlM_checkedMul_replicate_one (times : Nat) (start : UInt64) :
    (List.replicate times 1).foldlM checkedMul start = .ok start := by
  rw [foldlM_checkedMul_eq_ok_iff]
  have hproduct : ∀ n, exactProduct (List.replicate n 1) = 1 := by simp [exactProduct]
  refine ⟨fun initial hinitial => ?_, by simp [hproduct]⟩
  rw [List.prefix_replicate_iff] at hinitial
  have hstart : start.toNat < 2 ^ 64 := start.toNat_lt
  rw [hinitial.2, hproduct, Nat.mul_one]
  exact hstart

/-- A product of counts that are not larger fits wherever the larger ones fit. -/
lemma foldlM_checkedMul_mono {counts counts' : List UInt64} (h : List.Forall₂ (· ≤ ·) counts counts')
    {start start' total' : UInt64} (hstart : start ≤ start')
    (htotal : counts'.foldlM checkedMul start' = .ok total') :
    ∃ total, counts.foldlM checkedMul start = .ok total ∧ total ≤ total' := by
  induction h generalizing start start' with
  | nil =>
    cases htotal
    exact ⟨start, rfl, hstart⟩
  | @cons first first' rest rest' hfirst _ ih =>
    rw [List.foldlM_cons] at htotal
    have hle : start.toNat * first.toNat ≤ start'.toNat * first'.toNat :=
      Nat.mul_le_mul (UInt64.le_iff_toNat_le.mp hstart) (UInt64.le_iff_toNat_le.mp hfirst)
    by_cases hfits : start'.toNat * first'.toNat < 2 ^ 64
    · obtain ⟨next', hnext', hvalue'⟩ := checkedMul_of_lt hfits
      obtain ⟨next, hnext, hvalue⟩ := checkedMul_of_lt (Nat.lt_of_le_of_lt hle hfits)
      rw [hnext'] at htotal
      rw [List.foldlM_cons, hnext]
      have hnexts : next ≤ next' := by rwa [UInt64.le_iff_toNat_le, hvalue, hvalue']
      exact ih hnexts htotal
    · rw [checkedMul_of_le (Nat.not_lt.mp hfits)] at htotal
      cases htotal

end OpTiming
