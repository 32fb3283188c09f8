import Mathlib.Order.Bounds.Defs
import OpTiming.Proofs.Accelerator.Canonical
import OpTiming.Proofs.Fault

/-!
# Cutting a dispatch down

A work-group decides about a dispatch place by place.  Whether it accepts a place, and which failure it
has to object there, does not depend on the dispatch, so the first place with an objection is the least
one, and a dispatch is cut down iff there is none below its dimension.

* **`divideDeclared_eq_ok`**, **`divideDeclared_eq_error`** — the two outcomes at one place.
* **`divideDown_eq_error`** — a division that fails has failed at one place and not at an earlier one.
* **`isGreatest_cut`** — a component is cut down to the largest multiple that is not above it.  Nothing
  wraps around: the multiple is not larger than a count that was there.
* **`CutDown`** — what is left of a dispatch, component by component and as a total.
* **`divideDown_outcome`** — when a dispatch is cut down, what is left of it, and what fails otherwise.
-/

namespace OpTiming.Accelerator.Range

variable {global local_ result : Range} {index : Nat} {size cut : UInt64} {failure failure' : Failure}

/-! ## What a work-group accepts -/

/-- A work-group accepts a place where it declares a component that is not zero. -/
def Accepts (local_ : Range) (index : Nat) : Prop :=
  index < local_.dimension ∧ local_.get index ≠ .ok 0

instance : Decidable (Accepts local_ index) := inferInstanceAs (Decidable (_ ∧ _))

/-- What a work-group has to object at a place. -/
inductive Objects (local_ : Range) (index : Nat) : Failure → Prop
  | undeclared (h : local_.dimension ≤ index) :
      Objects local_ index (.rangeIndex index local_.dimension)
  | zero (h : local_.get index = .ok 0) :
      Objects local_ index (.invalidSetting "local work size" local_.show)

lemma Objects.not_accepts (h : Objects local_ index failure) : ¬ Accepts local_ index := by
  rintro ⟨hdeclared, hnonzero⟩
  cases h with
  | undeclared hle => omega
  | zero hzero => exact hnonzero hzero

lemma Objects.unique (h : Objects local_ index failure) (h' : Objects local_ index failure') :
    failure = failure' := by
  cases h with
  | undeclared hle =>
    cases h' with
    | undeclared => rfl
    | zero hzero => exact absurd (lt_of_get_eq_ok hzero) (Nat.not_lt.mpr hle)
  | zero hzero =>
    cases h' with
    | undeclared hle => exact absurd (lt_of_get_eq_ok hzero) (Nat.not_lt.mpr hle)
    | zero => rfl

/-! ## One place -/

lemma divideComponent_of_get {group : UInt64} (h : local_.get index = .ok group) :
    divideComponent local_ index size =
      if group = 0 then .error (.invalidSetting "local work size" local_.show)
      else .ok (size / group * group) := by
  rw [divideComponent, h]
  rfl

lemma divideComponent_of_le (h : local_.dimension ≤ index) :
    divideComponent local_ index size = .error (.rangeIndex index local_.dimension) := by
  rw [divideComponent, get_of_le h]
  rfl

lemma divideDeclared_eq_ok (hdeclared : index < global.dimension)
    (h : divideDeclared global local_ index size = .ok cut) :
    ∃ group, local_.get index = .ok group ∧ group ≠ 0 ∧ cut = size / group * group := by
  rw [divideDeclared, if_pos hdeclared] at h
  rcases hgroup : local_.get index with failure | group
  · rw [divideComponent, hgroup] at h
    cases h
  · rw [divideComponent_of_get hgroup] at h
    by_cases hzero : group = 0
    · rw [if_pos hzero] at h
      cases h
    · rw [if_neg hzero] at h
      exact ⟨group, rfl, hzero, (Except.ok.inj h).symm⟩

lemma divideDeclared_eq_error (hplace : index < 3)
    (h : divideDeclared global local_ index size = .error failure) :
    index < global.dimension ∧ Objects local_ index failure := by
  by_cases hdeclared : index < global.dimension
  · rw [divideDeclared, if_pos hdeclared] at h
    refine ⟨hdeclared, ?_⟩
    by_cases hlocal : index < local_.dimension
    · obtain ⟨group, -, hgroup⟩ := get_of_lt hlocal hplace
      rw [divideComponent_of_get hgroup] at h
      by_cases hzero : group = 0
      · rw [if_pos hzero] at h
        obtain rfl := Except.error.inj h
        exact .zero (hzero ▸ hgroup)
      · rw [if_neg hzero] at h
        cases h
    · have hle := Nat.not_lt.mp hlocal
      rw [divideComponent_of_le hle] at h
      obtain rfl := Except.error.inj h
      exact .undeclared hle
  · rw [divideDeclared, if_neg hdeclared] at h
    cases h

lemma accepts_of_divideDeclared (hdeclared : index < global.dimension)
    (h : divideDeclared global local_ index size = .ok cut) : Accepts local_ index := by
  obtain ⟨group, hgroup, hnonzero, -⟩ := divideDeclared_eq_ok hdeclared h
  refine ⟨lt_of_get_eq_ok hgroup, fun hzero => hnonzero ?_⟩
  rw [hgroup] at hzero
  exact Except.ok.inj hzero

/-! ## All places -/

/-- **A division fails at one place**, and not at a place before it. -/
lemma divideDown_eq_error (h : divideDown global local_ = .error failure) :
    ∃ index size, index < 3 ∧ divideDeclared global local_ index size = .error failure ∧
      ∀ earlier < index, ∃ size' cut, divideDeclared global local_ earlier size' = .ok cut := by
  rw [divideDown] at h
  rcases h₀ : divideDeclared global local_ 0 global.first with failure₀ | first
  · rw [h₀] at h
    obtain rfl := Except.error.inj h
    refine ⟨0, _, by omega, h₀, fun earlier hearlier => ?_⟩
    exact absurd hearlier (Nat.not_lt_zero earlier)
  rcases h₁ : divideDeclared global local_ 1 global.second with failure₁ | second
  · rw [h₀, h₁] at h
    obtain rfl := Except.error.inj h
    refine ⟨1, _, by omega, h₁, fun earlier hearlier => ?_⟩
    obtain rfl : earlier = 0 := by omega
    exact ⟨_, _, h₀⟩
  rcases h₂ : divideDeclared global local_ 2 global.third with failure₂ | third
  · rw [h₀, h₁, h₂] at h
    obtain rfl := Except.error.inj h
    refine ⟨2, _, by omega, h₂, fun earlier hearlier => ?_⟩
    obtain rfl | rfl : earlier = 0 ∨ earlier = 1 := by omega
    · exact ⟨_, _, h₀⟩
    · exact ⟨_, _, h₁⟩
  rw [h₀, h₁, h₂] at h
  cases h

/-- What a division that succeeds has done at a declared place. -/
lemma divideDown_declared (hglobal : global.dimension ≤ 3) (h : divideDown global local_ = .ok result)
    (hindex : index < global.dimension) :
    ∃ size group, global.get index = .ok size ∧ local_.get index = .ok group ∧ group ≠ 0 ∧
      result.get index = .ok (size / group * group) := by
  obtain ⟨hdimension, hcomponents⟩ := divideDown_eq_ok h
  obtain ⟨size, hsize, hget⟩ := get_of_lt hindex (by omega)
  obtain ⟨cut, hcut, hresult⟩ := hcomponents index size hsize
  obtain ⟨group, hgroup, hnonzero, rfl⟩ := divideDeclared_eq_ok hindex hcut
  refine ⟨size, group, hget, hgroup, hnonzero, ?_⟩
  rw [get_eq_ok_iff, toList_getElem?_of_lt (by omega), hresult]

lemma accepts_of_divideDown (hglobal : global.dimension ≤ 3)
    (h : divideDown global local_ = .ok result) (hindex : index < global.dimension) :
    Accepts local_ index := by
  obtain ⟨-, hcomponents⟩ := divideDown_eq_ok h
  obtain ⟨size, hsize, -⟩ := get_of_lt hindex (by omega)
  obtain ⟨cut, hcut, -⟩ := hcomponents index size hsize
  exact accepts_of_divideDeclared hindex hcut

/-- **The least place with an objection decides the failure.** -/
lemma objects_of_divideDown (h : divideDown global local_ = .error failure) :
    ∃ index < global.dimension, (∀ earlier < index, Accepts local_ earlier) ∧
      Objects local_ index failure := by
  obtain ⟨index, size, hplace, hfailure, hearlier⟩ := divideDown_eq_error h
  obtain ⟨hdeclared, hobjects⟩ := divideDeclared_eq_error hplace hfailure
  refine ⟨index, hdeclared, fun earlier hlt => ?_, hobjects⟩
  obtain ⟨size', cut, hcut⟩ := hearlier earlier hlt
  exact accepts_of_divideDeclared (by omega) hcut

lemma exists_divideDown_iff (hglobal : global.dimension ≤ 3) :
    (∃ result, divideDown global local_ = .ok result) ↔
      ∀ index < global.dimension, Accepts local_ index := by
  constructor
  · rintro ⟨result, h⟩ index hindex
    exact accepts_of_divideDown hglobal h hindex
  · intro haccepts
    rcases h : divideDown global local_ with failure | result
    · obtain ⟨index, hindex, -, hobjects⟩ := objects_of_divideDown h
      exact absurd (haccepts index hindex) hobjects.not_accepts
    · exact ⟨result, rfl⟩

lemma divideDown_eq_error_iff (hglobal : global.dimension ≤ 3) :
    divideDown global local_ = .error failure ↔
      ∃ index < global.dimension, (∀ earlier < index, Accepts local_ earlier) ∧
        Objects local_ index failure := by
  refine ⟨objects_of_divideDown, ?_⟩
  rintro ⟨index, hindex, hearlier, hobjects⟩
  rcases h : divideDown global local_ with failure' | result
  · obtain ⟨index', -, hearlier', hobjects'⟩ := objects_of_divideDown h
    -- each of the two places would be accepted if it came before the other one
    have hle : index ≤ index' := by
      by_contra hlt
      exact hobjects'.not_accepts (hearlier index' (by omega))
    have hle' : index' ≤ index := by
      by_contra hlt
      exact hobjects.not_accepts (hearlier' index (by omega))
    obtain rfl : index = index' := Nat.le_antisymm hle hle'
    rw [hobjects'.unique hobjects]
  · exact absurd (accepts_of_divideDown hglobal h hindex) hobjects.not_accepts

/-! ## What is left -/

lemma toNat_cut (size group : UInt64) :
    (size / group * group).toNat = size.toNat / group.toNat * group.toNat := by
  have hle : size.toNat / group.toNat * group.toNat ≤ size.toNat := Nat.div_mul_le_self ..
  have hlt : size.toNat < 2 ^ 64 := size.toNat_lt
  rw [UInt64.toNat_mul, UInt64.toNat_div, Nat.mod_eq_of_lt (by omega)]

lemma cut_le (size group : UInt64) : size / group * group ≤ size := by
  rw [UInt64.le_iff_toNat_le, toNat_cut]
  exact Nat.div_mul_le_self ..

/-- **A component is cut down to the largest multiple** of the group that is not above it. -/
lemma isGreatest_cut {group : UInt64} (size : UInt64) (hgroup : group ≠ 0) :
    IsGreatest {count : Nat | group.toNat ∣ count ∧ count ≤ size.toNat}
      (size / group * group).toNat := by
  rw [toNat_cut]
  refine ⟨⟨Nat.dvd_mul_left .., Nat.div_mul_le_self ..⟩, ?_⟩
  rintro count ⟨⟨times, rfl⟩, hle⟩
  rw [Nat.mul_comm group.toNat] at hle ⊢
  exact Nat.mul_le_mul_right _ ((Nat.le_div_iff_mul_le (toNat_pos hgroup)).mpr hle)

lemma cut_cut {group : UInt64} (size : UInt64) (hgroup : group ≠ 0) :
    size / group * group / group * group = size / group * group := by
  apply UInt64.toNat_inj.mp
  rw [toNat_cut, toNat_cut, Nat.mul_div_cancel _ (toNat_pos hgroup)]

/-- A dispatch of one dimension is cut down to the groups that are full. -/
lemma divideDown_d1 {group : UInt64} (size : UInt64) (hgroup : group ≠ 0) :
    divideDown (d1 size) (d1 group) = .ok (d1 (size / group * group)) := by
  have hget : (d1 group).get 0 = .ok group := rfl
  have hdeclared : 0 < (d1 size).dimension := Nat.one_pos
  have hfirst : divideDeclared (d1 size) (d1 group) 0 size = .ok (size / group * group) := by
    rw [divideDeclared, if_pos hdeclared, divideComponent_of_get hget, if_neg hgroup]
  change divideDeclared (d1 size) (d1 group) 0 size >>= _ = _
  rw [hfirst]
  rfl

/-- The product of as many divisors, taken from the left, divides the product. -/
lemma exactProduct_take_dvd {divisors counts : List UInt64}
    (h : ∀ (index : Nat) (count : UInt64), counts[index]? = some count →
      ∃ divisor : UInt64, divisors[index]? = some divisor ∧ divisor.toNat ∣ count.toNat) :
    exactProduct (divisors.take counts.length) ∣ exactProduct counts := by
  induction counts generalizing divisors with
  | nil => simp
  | cons count counts ih =>
    obtain ⟨divisor, hdivisor, hfirst⟩ := h 0 count rfl
    obtain ⟨divisors, rfl⟩ : ∃ rest, divisors = divisor :: rest := by
      cases divisors with
      | nil => cases hdivisor
      | cons first rest => exact ⟨rest, by rw [Option.some.inj hdivisor]⟩
    rw [List.length_cons, List.take_succ_cons, exactProduct_cons, exactProduct_cons]
    exact Nat.mul_dvd_mul hfirst (ih fun index => h (index + 1))

/-- What a dispatch is cut down to. -/
structure CutDown (global local_ result : Range) : Prop where
  dimension : result.dimension = global.dimension
  /-- A declared component is the largest multiple of the group's that is not above the dispatch's. -/
  declared : ∀ index < global.dimension, ∃ size group cut, global.get index = .ok size ∧
    local_.get index = .ok group ∧ result.get index = .ok cut ∧
    IsGreatest {count : Nat | group.toNat ∣ count ∧ count ≤ size.toNat} cut.toNat
  undeclared : result.components.drop global.dimension = global.components.drop global.dimension
  /-- Cutting down once more changes nothing. -/
  idempotent : divideDown result local_ = .ok result
  total : ∀ count, global.total = .ok count → ∃ count', result.total = .ok count' ∧ count' ≤ count ∧
    exactProduct (local_.toList.take global.dimension) ∣ count'.toNat

/-- No component grows. -/
lemma divideDown_le (h : divideDown global local_ = .ok result) :
    List.Forall₂ (· ≤ ·) result.components global.components := by
  obtain ⟨-, hcomponents⟩ := divideDown_eq_ok h
  rw [List.forall₂_iff_get]
  refine ⟨rfl, fun index hresult hglobal => ?_⟩
  obtain ⟨cut, hcut, hsome⟩ := hcomponents index _ (List.getElem?_eq_getElem hglobal)
  have hle : cut ≤ global.components[index] := by
    by_cases hdeclared : index < global.dimension
    · obtain ⟨group, -, -, rfl⟩ := divideDeclared_eq_ok hdeclared hcut
      exact cut_le _ group
    · rw [divideDeclared, if_neg hdeclared] at hcut
      rw [Except.ok.inj hcut]
      exact UInt64.le_refl _
  rw [List.getElem?_eq_getElem hresult] at hsome
  rwa [← Option.some.inj hsome] at hle

/-- What is left is a multiple of the group's size in the dimensions of the dispatch. -/
lemma divideDown_dvd (hglobal : global.dimension ≤ 3) (h : divideDown global local_ = .ok result) :
    exactProduct (local_.toList.take global.dimension) ∣ exactProduct result.components := by
  have hdimension := (divideDown_eq_ok h).1
  have hlength : result.toList.length = global.dimension := by
    rw [length_toList]
    omega
  have hdeclared : exactProduct (local_.toList.take global.dimension) ∣ exactProduct result.toList := by
    rw [← hlength]
    apply exactProduct_take_dvd
    intro index cut hcut
    rw [← get_eq_ok_iff] at hcut
    have hindex : index < global.dimension := hdimension ▸ lt_of_get_eq_ok hcut
    obtain ⟨size, group, -, hgroup, hnonzero, hcut'⟩ := divideDown_declared hglobal h hindex
    obtain rfl : cut = size / group * group := Except.ok.inj (hcut.symm.trans hcut')
    exact ⟨group, get_eq_ok_iff.mp hgroup, (isGreatest_cut size hnonzero).1.1⟩
  have hsplit : result.components = result.toList ++ result.components.drop result.dimension :=
    (List.take_append_drop ..).symm
  rw [hsplit, exactProduct_append]
  exact Nat.dvd_mul_right_of_dvd hdeclared _

/-- A component that was cut down is not cut down any further. -/
lemma divideDeclared_again (hdimension : result.dimension = global.dimension)
    (h : divideDeclared global local_ index size = .ok cut) :
    divideDeclared result local_ index cut = .ok cut := by
  by_cases hdeclared : index < global.dimension
  · obtain ⟨group, hgroup, hnonzero, rfl⟩ := divideDeclared_eq_ok hdeclared h
    rw [divideDeclared, hdimension, if_pos hdeclared, divideComponent_of_get hgroup, if_neg hnonzero,
      cut_cut _ hnonzero]
  · rw [divideDeclared, hdimension, if_neg hdeclared]

lemma divideDown_idempotent (h : divideDown global local_ = .ok result) :
    divideDown result local_ = .ok result := by
  obtain ⟨hdimension, hcomponents⟩ := divideDown_eq_ok h
  have hagain : ∀ index size, result.components[index]? = some size →
      divideDeclared result local_ index size = .ok size := by
    intro index cut hcut
    have hlength : index < global.components.length := (List.getElem?_eq_some_iff.mp hcut).1
    obtain ⟨cut', hcut', hresult⟩ := hcomponents index _ (List.getElem?_eq_getElem hlength)
    obtain rfl : cut = cut' := Option.some.inj (hcut.symm.trans hresult)
    exact divideDeclared_again hdimension hcut'
  rw [divideDown, hagain 0 result.first rfl, hagain 1 result.second rfl, hagain 2 result.third rfl]
  rfl

/-- The total of what is left fits where that of the dispatch did. -/
lemma divideDown_total (hglobal : global.dimension ≤ 3) (h : divideDown global local_ = .ok result)
    {count : UInt64} (htotal : global.total = .ok count) :
    ∃ count', result.total = .ok count' ∧ count' ≤ count ∧
      exactProduct (local_.toList.take global.dimension) ∣ count'.toNat := by
  obtain ⟨count', htotal', hle⟩ :=
    foldlM_checkedMul_mono (divideDown_le h) (UInt64.le_refl 1) htotal
  refine ⟨count', htotal', hle, ?_⟩
  rw [(foldlM_checkedMul_eq_ok_iff.mp htotal').2, UInt64.toNat_one, Nat.one_mul]
  exact divideDown_dvd hglobal h

lemma cutDown_of_divideDown (hglobal : global.dimension ≤ 3)
    (h : divideDown global local_ = .ok result) : CutDown global local_ result where
  dimension := (divideDown_eq_ok h).1
  declared := by
    intro index hindex
    obtain ⟨size, group, hsize, hgroup, hnonzero, hcut⟩ := divideDown_declared hglobal h hindex
    exact ⟨size, group, _, hsize, hgroup, hcut, isGreatest_cut size hnonzero⟩
  undeclared := divideDown_undeclared h
  idempotent := divideDown_idempotent h
  total := fun _ => divideDown_total hglobal h

/-- **Cutting a dispatch down.**  Of the at most three components that a dispatch declares, the work-group
has to accept every one; then the dispatch is cut down, and otherwise the first place that it does not
accept decides what fails. -/
theorem divideDown_outcome (global local_ : Range) (hglobal : global.dimension ≤ 3) :
    ((∃ result, divideDown global local_ = .ok result) ↔
      ∀ index < global.dimension, Accepts local_ index) ∧
    (∀ failure, divideDown global local_ = .error failure ↔
      ∃ index < global.dimension, (∀ earlier < index, Accepts local_ earlier) ∧
        Objects local_ index failure) ∧
    ∀ result, divideDown global local_ = .ok result → CutDown global local_ result :=
  ⟨exists_divideDown_iff hglobal, fun _ => divideDown_eq_error_iff hglobal,
    fun _ => cutDown_of_divideDown hglobal⟩

/-- A zero in the second place is reported before the third one is missed. -/
theorem divideDown_outcome_of_sample :
    divideDown (d3 100 17 5) (d2 32 0) =
        .error (.invalidSetting "local work size" "\x7b32, 0\x7d") ∧
      divideDown (d3 100 17 5) (d2 32 4) = .error (.rangeIndex 2 2) ∧
      ∃ result, divideDown (d2 100 17) (d3 32 4 0) = .ok result ∧
        CutDown (d2 100 17) (d3 32 4 0) result := by
  have hzero := (divideDown_outcome (d3 100 17 5) (d2 32 0) (by decide)).2.1
  have hshort := (divideDown_outcome (d3 100 17 5) (d2 32 4) (by decide)).2.1
  have hfits := divideDown_outcome (d2 100 17) (d3 32 4 0) (by decide)
  obtain ⟨result, hresult⟩ := hfits.1.mpr (by decide)
  refine ⟨(hzero _).mpr ⟨1, by decide, by decide, .zero rfl⟩,
    (hshort _).mpr ⟨2, by decide, by decide, .undeclared (by decide)⟩, result, hresult, ?_⟩
  exact hfits.2.2 result hresult

end OpTiming.Accelerator.Range
