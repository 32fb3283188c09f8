import Mathlib.Data.List.Basic
import OpTiming.Accelerator.Range

/-!
# Canonical ranges

A range holds three components whatever it declares, and equality, order and total look at all three.
What they say is about the declared components only as long as the others never tell two ranges apart.

* **`Made`** — a range that can be made: by naming its components, or by cutting down one that was made.
* **`Canonical`** — there are three dimensions at most, and what is not declared is filled up with ones,
  or with zeros where nothing is declared.
* **`divideDown_eq_ok`** — a division that succeeds has cut down each component by itself.
* **`Made.canonical`** — every range that can be made is canonical.
* **`Canonical.ext`** — canonical ranges that declare the same are the same.
-/

namespace OpTiming.Accelerator.Range

/-! ## Declared components -/

lemma length_toList (r : Range) : r.toList.length = min r.dimension 3 := by
  simp [toList, components]

lemma get_eq_ok_iff {r : Range} {index : Nat} {size : UInt64} :
    r.get index = .ok size ↔ r.toList[index]? = some size := by
  rw [get]
  cases r.toList[index]? with
  | none => simp
  | some size' => simp

lemma get_of_le {r : Range} {index : Nat} (h : r.dimension ≤ index) :
    r.get index = .error (.rangeIndex index r.dimension) := by
  have hnone : r.toList[index]? = none := by
    rw [List.getElem?_eq_none_iff, length_toList]
    omega
  rw [get, hnone]

/-- A declared component is the component at its place. -/
lemma toList_getElem?_of_lt {r : Range} {index : Nat} (h : index < r.dimension) :
    r.toList[index]? = r.components[index]? := by
  rw [toList, List.getElem?_take_of_lt h]

lemma get_of_lt {r : Range} {index : Nat} (hdimension : index < r.dimension) (hplace : index < 3) :
    ∃ size, r.components[index]? = some size ∧ r.get index = .ok size := by
  have hlength : index < r.components.length := hplace
  refine ⟨r.components[index], List.getElem?_eq_getElem hlength, ?_⟩
  rw [get_eq_ok_iff, toList_getElem?_of_lt hdimension, List.getElem?_eq_getElem hlength]

lemma lt_of_get_eq_ok {r : Range} {index : Nat} {size : UInt64} (h : r.get index = .ok size) :
    index < r.dimension := by
  by_contra hle
  rw [get_of_le (Nat.not_lt.mp hle)] at h
  cases h

lemma eq_of_components {a b : Range} (hdimension : a.dimension = b.dimension)
    (hcomponents : a.components = b.components) : a = b := by
  obtain ⟨dimension, first, second, third⟩ := a
  obtain ⟨dimension', first', second', third'⟩ := b
  simp only [components, List.cons.injEq, and_true] at hcomponents
  obtain ⟨rfl, rfl, rfl⟩ := hcomponents
  obtain rfl : dimension = dimension' := hdimension
  rfl

/-! ## Ranges that were cut down -/

/-- **A range is cut down component by component.**  What stands at a place after a division is what the
division makes of the component that stood there before. -/
lemma divideDown_eq_ok {global local_ result : Range} (h : divideDown global local_ = .ok result) :
    result.dimension = global.dimension ∧
      ∀ index size, global.components[index]? = some size → ∃ size',
        divideDeclared global local_ index size = .ok size' ∧ result.components[index]? = some size' := by
  rw [divideDown] at h
  rcases h₀ : divideDeclared global local_ 0 global.first with failure | first
  · rw [h₀] at h
    cases h
  rcases h₁ : divideDeclared global local_ 1 global.second with failure | second
  · rw [h₀, h₁] at h
    cases h
  rcases h₂ : divideDeclared global local_ 2 global.third with failure | third
  · rw [h₀, h₁, h₂] at h
    cases h
  rw [h₀, h₁, h₂] at h
  cases h
  refine ⟨rfl, fun index size hsize => ?_⟩
  match index with
  | 0 =>
    obtain rfl := Option.some.inj hsize
    exact ⟨first, h₀, rfl⟩
  | 1 =>
    obtain rfl := Option.some.inj hsize
    exact ⟨second, h₁, rfl⟩
  | 2 =>
    obtain rfl := Option.some.inj hsize
    exact ⟨third, h₂, rfl⟩
  | _ + 3 => cases hsize

/-- What is not declared is not cut down. -/
lemma divideDown_undeclared {global local_ result : Range} (h : divideDown global local_ = .ok result) :
    result.components.drop global.dimension = global.components.drop global.dimension := by
  obtain ⟨-, hcomponents⟩ := divideDown_eq_ok h
  apply List.ext_getElem?
  intro index
  rw [List.getElem?_drop, List.getElem?_drop]
  have hundeclared : ¬ global.dimension + index < global.dimension := by omega
  rcases hsize : global.components[global.dimension + index]? with _ | size
  · rw [List.getElem?_eq_none_iff] at hsize ⊢
    exact hsize
  · obtain ⟨size', hcut, hsize'⟩ := hcomponents _ size hsize
    rw [divideDeclared, if_neg hundeclared] at hcut
    rw [hsize', Except.ok.inj hcut]

/-! ## Canonical ranges -/

/-- What fills up the components that a range of a dimension does not declare. -/
def padding (dimension : Nat) : UInt64 := if dimension = 0 then 0 else 1

/-- A range declares three components at most.  One that declares none holds only zeros; in any other,
what is not declared is one. -/
structure Canonical (r : Range) : Prop where
  dimension_le : r.dimension ≤ 3
  zeros : r.dimension = 0 → ∀ size ∈ r.components, size = 0
  ones : r.dimension ≠ 0 → ∀ size ∈ r.components.drop r.dimension, size = 1

/-- The ranges that can be made. -/
inductive Made : Range → Prop
  | empty : Made empty
  | default : Made default
  | d1 (a : UInt64) : Made (d1 a)
  /-- A number of work-items, taken as a range. -/
  | coe (a : UInt64) : Made (a : Range)
  | d2 (a b : UInt64) : Made (d2 a b)
  | d3 (a b c : UInt64) : Made (d3 a b c)
  /-- A range that was cut down to multiples of another one. -/
  | divideDown {global local_ result : Range} (hglobal : Made global) (hlocal : Made local_)
      (h : divideDown global local_ = .ok result) : Made result

namespace Canonical

variable {r : Range}

lemma length_toList (h : r.Canonical) : r.toList.length = r.dimension := by
  rw [Range.length_toList, Nat.min_eq_left h.dimension_le]

/-- The components of a canonical range are those it declares and then its padding. -/
lemma components_eq (h : r.Canonical) :
    r.components = r.toList ++ List.replicate (3 - r.dimension) (padding r.dimension) := by
  have hpadding : r.components.drop r.dimension =
      List.replicate (3 - r.dimension) (padding r.dimension) := by
    rw [List.eq_replicate_iff]
    refine ⟨by simp [components], fun size hsize => ?_⟩
    rw [padding]
    split
    next hzero => exact h.zeros hzero size (List.mem_of_mem_drop hsize)
    next hpositive => exact h.ones hpositive size hsize
  rw [← hpadding, toList, List.take_append_drop]

/-- **A canonical range is known by what it declares.** -/
lemma ext {a b : Range} (ha : a.Canonical) (hb : b.Canonical) (h : a.toList = b.toList) : a = b := by
  have hdimension : a.dimension = b.dimension := by rw [← ha.length_toList, ← hb.length_toList, h]
  refine eq_of_components hdimension ?_
  rw [ha.components_eq, hb.components_eq, h, hdimension]

/-- A canonical range stays canonical when it is cut down. -/
lemma divideDown {global local_ result : Range} (hglobal : global.Canonical)
    (h : divideDown global local_ = .ok result) : result.Canonical := by
  have hdimension := (divideDown_eq_ok h).1
  have hundeclared := divideDown_undeclared h
  refine ⟨hdimension ▸ hglobal.dimension_le, fun hzero => ?_, fun hpositive => ?_⟩
  · rw [hdimension] at hzero
    rw [hzero, List.drop_zero, List.drop_zero] at hundeclared
    rw [hundeclared]
    exact hglobal.zeros hzero
  · rw [hdimension] at hpositive ⊢
    rw [hundeclared]
    exact hglobal.ones hpositive

end Canonical

lemma canonical_empty : empty.Canonical where
  dimension_le := by simp [empty]
  zeros := by simp [empty, components]
  ones := fun hpositive => absurd rfl hpositive

lemma canonical_d1 (a : UInt64) : (d1 a).Canonical where
  dimension_le := by simp [d1]
  zeros := nofun
  ones := by simp [d1, components]

lemma canonical_d2 (a b : UInt64) : (d2 a b).Canonical where
  dimension_le := by simp [d2]
  zeros := nofun
  ones := by simp [d2, components]

lemma canonical_d3 (a b c : UInt64) : (d3 a b c).Canonical where
  dimension_le := by simp [d3]
  zeros := nofun
  ones := by simp [d3, components]

/-- **Every range that can be made is canonical.** -/
theorem Made.canonical {r : Range} (h : r.Made) : r.Canonical := by
  induction h with
  | empty => exact canonical_empty
  | default => exact canonical_empty
  | d1 a => exact canonical_d1 a
  | coe a => exact canonical_d1 a
  | d2 a b => exact canonical_d2 a b
  | d3 a b c => exact canonical_d3 a b c
  | divideDown _ _ h hglobal _ => exact hglobal.divideDown h

end OpTiming.Accelerator.Range
