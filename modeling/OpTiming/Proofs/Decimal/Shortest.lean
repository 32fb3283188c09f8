import Mathlib.Data.List.DropRight
import OpTiming.Decimal.Shortest
import OpTiming.Proofs.Numeral

/-!
# What the fewest digits look like

The digits under which a number is written are decimal digits, there is at least one, and the first one
is not a zero — apart from the lone zero that stands in where no grid gave a hit (`proper_shortest`).  The
reason is that zero does not lie in the interval of a positive number, and so is never the point found on a
grid.
-/

namespace OpTiming.Decimal

open OpTiming.Text

/-- Digits that a number can be written with: a run, which starts with a zero only if that is the only
digit and stands right before the point. -/
structure Digits.Proper (d : Digits) : Prop where
  isRun : Numeral.isRun d.digits = true
  leading : d.digits.head? ≠ some '0' ∨ d = ⟨['0'], 1⟩

/-! ## Points of a grid -/

namespace Interval

variable {i : Interval}

lemma contains_zero (h : 0 < i.low) : i.contains 0 = false := by
  have hlow : ¬ i.low ≤ 0 := Nat.not_le_of_lt h
  rw [contains]
  split <;> simp [hlow]

lemma contains_of_nearest? {n : Nat} (h : i.nearest? = some n) : i.contains n = true := by
  simp only [nearest?] at h
  split at h
  next => cases h
  next hbelow _ =>
    cases h
    exact hbelow
  next _ habove =>
    cases h
    exact habove
  next hbelow habove =>
    split at h
    · cases h
      exact hbelow
    · split at h
      · cases h
        exact habove
      · split at h
        · cases h
          exact hbelow
        · cases h
          exact habove

lemma nearest?_ne_zero {n : Nat} (hlow : 0 < i.low) (h : i.nearest? = some n) : n ≠ 0 := by
  rintro rfl
  have hzero := contains_of_nearest? h
  rw [contains_zero hlow] at hzero
  cases hzero

lemma low_onGrid_pos (h : 0 < i.low) (place : Int) : 0 < (i.onGrid place).low :=
  Nat.mul_pos h (Nat.pow_pos (by decide))

lemma low_ofBinary_pos {mantissa : Nat} (h : mantissa ≠ 0) (exponent : Int) :
    0 < (ofBinary mantissa exponent).low := by
  refine Nat.mul_pos ?_ (Nat.pow_pos (by decide))
  split <;> omega

end Interval

/-! ## Digits -/

lemma Digits.proper_ofNat {n : Nat} (hn : n ≠ 0) (place : Int) : (Digits.ofNat n place).Proper := by
  obtain ⟨hne, hdigits⟩ := Numeral.isRun_iff.mp (Numeral.isRun_toDigits n)
  have hhead := Numeral.head?_toDigits_ne_zero hn
  have hkept : (Digits.ofNat n place).digits = (Nat.toDigits 10 n).rdropWhile (· == '0') := rfl
  -- the first digit is no zero, so taking zeros off the end leaves it where it is
  have hsome : (Nat.toDigits 10 n).rdropWhile (· == '0') ≠ [] := by
    obtain ⟨c, cs, hcons⟩ := List.exists_cons_of_ne_nil hne
    rw [ne_eq, List.rdropWhile_eq_nil_iff]
    intro hzeros
    have hzero : c = '0' := eq_of_beq (hzeros c (by simp [hcons]))
    rw [hcons, hzero] at hhead
    exact hhead rfl
  have hkeeps := List.rdropWhile_prefix (· == '0') (Nat.toDigits 10 n)
  refine ⟨Numeral.isRun_iff.mpr ⟨hsome, fun c hc => hdigits c (hkeeps.subset hc)⟩, Or.inl ?_⟩
  obtain ⟨zeros, hzeros⟩ := hkeeps
  rw [← hzeros, List.head?_append_of_ne_nil _ hsome] at hhead
  exact hhead

lemma proper_of_shortestFrom {i : Interval} (hlow : 0 < i.low) {magnitude : Int} {fuel size : Nat}
    {d : Digits} (h : shortestFrom i magnitude fuel size = some d) : d.Proper := by
  induction fuel generalizing size with
  | zero => cases h
  | succ fuel ih =>
      rw [shortestFrom] at h
      split at h
      next n hn =>
        cases h
        exact Digits.proper_ofNat (Interval.nearest?_ne_zero (Interval.low_onGrid_pos hlow _) hn) _
      next => exact ih h

/-- **The shortest digits of a positive number are proper.** -/
theorem proper_shortest {mantissa : Nat} (h : mantissa ≠ 0) (exponent : Int) :
    (shortest mantissa exponent).Proper := by
  rw [shortest]
  cases hfrom : shortestFrom (Interval.ofBinary mantissa exponent)
      (Interval.ofBinary mantissa exponent).magnitude 17 1 with
  | none => exact ⟨rfl, Or.inr rfl⟩
  | some d => exact proper_of_shortestFrom (Interval.low_ofBinary_pos h exponent) hfrom

end OpTiming.Decimal
