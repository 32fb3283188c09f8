import Mathlib

/-!
# A share is at most one

A count divided by a count that is no smaller gives at most one, in binary numbers of 53 significant bits as
well: turning a count into such a number keeps the order of counts, and so does the division's rounding, as one
is such a number itself.

* **`code`** — a significand and what is known of the bits behind it, as one number.  Shifting and rounding
  respect the order of these numbers, and that is all that the proofs need to know of them.
* **`carry`** — a rounded significand and its exponent, once a carry is shifted out.
* **`toFloat_div_toFloat_le_one`** — the share.
-/

namespace OpTiming.Ratio

open Float.Model Float.Model.UnpackedFloat

/-! ## Significands and the bits behind them -/

/-- A significand with its round bit and its sticky bit behind it. -/
def code (em : ExtendedMantissa) : Nat := 4 * em.mantissa + 2 * em.roundBit.toNat + em.stickyBit.toNat

variable {em em' : ExtendedMantissa} {k : Nat}

lemma code_shiftRightOne (em : ExtendedMantissa) : code em.shiftRightOne = 2 * (code em / 4) + min 1 (code em % 4) := by
  obtain ⟨m, round, sticky⟩ := em
  have hbit : (m % 2 != 0).toNat = m % 2 := by
    obtain h | h := Nat.mod_two_eq_zero_or_one m <;> simp [h]
  simp only [code, ExtendedMantissa.shiftRightOne, hbit]
  cases round <;> cases sticky <;> simp <;> omega

lemma code_shift_mono (h : code em ≤ code em') : code (em >>> k) ≤ code (em' >>> k) := by
  -- bits leave one at a time, and what is known of them grows with the number that they were part of
  induction k with
  | zero => exact h
  | succ k ih =>
    change code (em >>> k).shiftRightOne ≤ code (em' >>> k).shiftRightOne
    rw [code_shiftRightOne, code_shiftRightOne]
    omega

/-- A tie goes to the even significand. -/
lemma roundedMantissa_eq (em : ExtendedMantissa) :
    em.roundedMantissa = code em / 4 + (code em % 4 + 1 + code em / 4 % 2) / 4 := by
  have hm : code em / 4 = em.mantissa := by
    cases hround : em.roundBit <;> cases hsticky : em.stickyBit <;>
      simp only [code, hround, hsticky, Bool.toNat_false, Bool.toNat_true] <;> omega
  have hbits : code em % 4 = 2 * em.roundBit.toNat + em.stickyBit.toNat := by
    cases hround : em.roundBit <;> cases hsticky : em.stickyBit <;>
      simp only [code, hround, hsticky, Bool.toNat_false, Bool.toNat_true] <;> omega
  rw [hm, hbits]
  obtain ⟨m, round, sticky⟩ := em
  obtain heven | hodd := Nat.mod_two_eq_zero_or_one m
  · cases round <;> cases sticky <;>
      simp [ExtendedMantissa.roundedMantissa, ExtendedMantissa.accuracy, Accuracy.roundToNearestEven, heven]
  · cases round <;> cases sticky <;>
      simp [ExtendedMantissa.roundedMantissa, ExtendedMantissa.accuracy, Accuracy.roundToNearestEven, hodd]

lemma roundedMantissa_mono (h : code em ≤ code em') : em.roundedMantissa ≤ em'.roundedMantissa := by
  rw [roundedMantissa_eq, roundedMantissa_eq]
  -- rounding adds at most one, which no smaller significand can make up for
  obtain hlt | heq := Nat.lt_or_eq_of_le (Nat.div_le_div_right (c := 4) h)
  · omega
  · rw [heq]
    exact Nat.add_le_add_left (Nat.div_le_div_right (by omega)) _

lemma code_ofMantissaAndAccuracy (m : Nat) (accuracy : Accuracy) :
    4 * m ≤ code (.ofMantissaAndAccuracy m accuracy) ∧ code (.ofMantissaAndAccuracy m accuracy) < 4 * (m + 1) := by
  obtain _ | (_ | _ | _) := accuracy <;> simp only [code, ExtendedMantissa.ofMantissaAndAccuracy,
    Bool.toNat_false, Bool.toNat_true] <;> omega

lemma code_shift_of_pow (j k : Nat) {em : ExtendedMantissa} (h : code em = 4 * 2 ^ (j + k)) :
    code (em >>> k) = 4 * 2 ^ j := by
  induction k generalizing j with
  | zero => exact h
  | succ k ih =>
    change code (em >>> k).shiftRightOne = _
    rw [code_shiftRightOne, ih (j + 1) (by rw [h]; congr 2; omega), Nat.pow_succ]
    omega

/-- What a significand of enough bits is rounded to, once it is shifted to 53 bits. -/
lemma roundedMantissa_shift_bounds {m : Nat} (hm : m ≠ 0) (hlog : m.log2 = 52 + k) (accuracy : Accuracy) :
    2 ^ 52 ≤ (ExtendedMantissa.ofMantissaAndAccuracy m accuracy >>> k).roundedMantissa ∧
      (ExtendedMantissa.ofMantissaAndAccuracy m accuracy >>> k).roundedMantissa ≤ 2 ^ 53 := by
  obtain ⟨hlow, hhigh⟩ := (Nat.log2_eq_iff hm).mp hlog
  have hcode := code_ofMantissaAndAccuracy m accuracy
  have hpow : ∀ j, code (ExtendedMantissa.mk (2 ^ (j + k)) false false) = 4 * 2 ^ (j + k) := fun j => rfl
  have hrounded : ∀ j, (ExtendedMantissa.mk (2 ^ (j + k)) false false >>> k).roundedMantissa = 2 ^ j := by
    intro j
    rw [roundedMantissa_eq, code_shift_of_pow j k (hpow j)]
    omega
  -- the bounds are such significands themselves, and rounding does not move them
  rw [← hrounded 52, ← hrounded 53]
  constructor
  · refine roundedMantissa_mono (code_shift_mono ?_)
    rw [hpow]
    omega
  · refine roundedMantissa_mono (code_shift_mono ?_)
    rw [hpow, show 53 + k = 52 + k + 1 by omega]
    omega

/-! ## Numbers of 53 bits -/

/-- A rounded significand of 53 bits and its exponent, once a carry into a further bit is shifted out. -/
def carry (rounded : Nat) (exponent : Int) : Nat × Int :=
  if rounded < 2 ^ 53 then (rounded, exponent) else (2 ^ 52, exponent + 1)

/-- The positive number with a significand and an exponent. -/
def number (x : Nat × Int) : Float.Model.UnpackedFloat :=
  if h : x.1 = 0 then .zero .positive else .finite .positive x.1 x.2 (Nat.pos_of_ne_zero h)

/-- All 53 bits are used, and the exponent is not near its limits. -/
structure IsNormal (x : Nat × Int) : Prop where
  low : 2 ^ 52 ≤ x.1
  high : x.1 < 2 ^ 53
  small : -1000 ≤ x.2
  great : x.2 ≤ 900

/-- The order of normal numbers. -/
def Below (x y : Nat × Int) : Prop := x.2 < y.2 ∨ x.2 = y.2 ∧ x.1 ≤ y.1

variable {m rounded rounded' : Nat} {e e' : Int} {x y : Nat × Int}

lemma isNormal_carry (hlow : 2 ^ 52 ≤ rounded) (hsmall : -1000 ≤ e) (hgreat : e < 900) :
    IsNormal (carry rounded e) := by
  rw [carry]
  split_ifs with hrounded
  · exact ⟨hlow, hrounded, hsmall, hgreat.le⟩
  · exact ⟨le_rfl, by simp, by simp only; omega, by simp only; omega⟩

lemma carry_below (h : rounded ≤ rounded') : Below (carry rounded e) (carry rounded' e) := by
  rw [carry, carry]
  split_ifs with hrounded hrounded'
  · exact .inr ⟨rfl, h⟩
  · exact .inl (Int.lt_succ e)
  · omega
  · exact .inr ⟨rfl, le_rfl⟩

lemma carry_below_of_lt (hlow : 2 ^ 52 ≤ rounded') (h : e < e') : Below (carry rounded e) (carry rounded' e') := by
  rw [carry, carry]
  split_ifs
  · exact .inl h
  · exact .inl (h.trans (Int.lt_succ e'))
  · obtain hlt | heq := Int.lt_or_eq_of_le (Int.add_one_le_of_lt h)
    · exact .inl hlt
    · exact .inr ⟨heq, hlow⟩
  · exact .inl (Int.add_lt_add_right h 1)

lemma log2_of_isNormal (hlow : 2 ^ 52 ≤ m) (hhigh : m < 2 ^ 53) : m.log2 = 52 :=
  (Nat.log2_eq_iff (by omega)).mpr ⟨hlow, hhigh⟩

lemma targetExponent_eq (he : -1000 ≤ e) :
    Format.binary64.targetExponent (totalExponent m e) = m.log2 - 52 + e := by
  have hmin : Format.binary64.minExponent = -1074 := by decide
  have hbits : Format.binary64.mantissaBits = 53 := rfl
  rw [Format.targetExponent, totalExponent, hmin, hbits]
  omega

lemma shiftToTargetExponent_eq (h : m.log2 = 52 + k) (he : -1000 ≤ e) (accuracy : Accuracy) :
    shiftToTargetExponent Format.binary64 m e accuracy =
      (ExtendedMantissa.ofMantissaAndAccuracy m accuracy >>> k, e + k) := by
  have hamount : ((m.log2 : Int) - 52 + e - e).toNat = k := by omega
  rw [shiftToTargetExponent, targetExponent_eq he, shiftToExponent, hamount]

lemma shiftToTargetExponent_exact (hlow : 2 ^ 52 ≤ rounded) (hhigh : rounded ≤ 2 ^ 53) (he : -1000 ≤ e) :
    ((shiftToTargetExponent Format.binary64 rounded e .exact).1.mantissa,
      (shiftToTargetExponent Format.binary64 rounded e .exact).2) = carry rounded e := by
  rw [carry]
  split_ifs with hrounded
  · have hlog : rounded.log2 = 52 + 0 := log2_of_isNormal hlow hrounded
    rw [shiftToTargetExponent_eq hlog he, Int.natCast_zero, Int.add_zero]
    rfl
  · obtain rfl : rounded = 2 ^ 53 := by omega
    rw [shiftToTargetExponent_eq (show (2 ^ 53).log2 = 52 + 1 from Nat.log2_two_pow) he]
    rfl

/-- **Rounding** to 53 bits, of which the first is used. -/
lemma roundWithAccuracy_eq (hm : m ≠ 0) (hlog : m.log2 = 52 + k) (he : -1000 ≤ e) (accuracy : Accuracy) :
    roundWithAccuracy Format.binary64 .positive m e accuracy =
      number (carry (ExtendedMantissa.ofMantissaAndAccuracy m accuracy >>> k).roundedMantissa (e + k)) := by
  obtain ⟨hlow, hhigh⟩ := roundedMantissa_shift_bounds hm hlog accuracy
  rw [roundWithAccuracy, shiftToTargetExponent_eq hlog he, ← shiftToTargetExponent_exact hlow hhigh (by omega)]
  rfl

lemma number_eq (h : IsNormal x) : number x = .finite .positive x.1 x.2 (by have := h.low; omega) :=
  dif_neg (by have := h.low; omega)

/-- The leading one of 53 bits is not packed. -/
lemma toNat_one_append (hlow : 2 ^ 52 ≤ m) (hhigh : m < 2 ^ 53) : (1#1 ++ BitVec.ofNat 52 m).toNat = m := by
  rw [BitVec.toNat_append, ← Nat.shiftLeft_add_eq_or_of_lt (BitVec.isLt _), BitVec.toNat_ofNat, Nat.shiftLeft_eq]
  simp only [BitVec.toNat_ofNat]
  omega

lemma unpack_pack (h : IsNormal x) : (Float.Model.pack (number x)).unpack = number x := by
  rw [number_eq h]
  obtain ⟨m, e⟩ := x
  obtain ⟨hlow, hhigh, hsmall, hgreat⟩ := h
  simp only at hlow hhigh hsmall hgreat ⊢
  -- the exponent as it is stored, which is neither of the two that have a meaning of their own
  obtain ⟨stored, hstored⟩ : ∃ stored : Nat, e + 1023 + 52 = stored := Int.eq_ofNat_of_zero_le (by omega)
  have hexponent : (BitVec.ofNat 11 stored).toNat = stored := by
    rw [BitVec.toNat_ofNat]
    omega
  have hones : BitVec.ofNat 11 stored ≠ -1#11 := by
    intro heq
    have htoNat := congrArg BitVec.toNat heq
    rw [hexponent] at htoNat
    simp at htoNat
    omega
  have hzeros : BitVec.ofNat 11 stored ≠ 0#11 := by
    intro heq
    have htoNat := congrArg BitVec.toNat heq
    rw [hexponent] at htoNat
    simp at htoNat
    omega
  have hpack : UnpackedFloat.pack Format.binary64 (.finite .positive m e (by omega)) =
      packComponents Format.binary64 .positive (BitVec.ofNat 11 stored) (BitVec.ofNat 52 m) := by
    have hbias : (e + Format.binary64.exponentBias + Format.binary64.mantissaBitsWithoutImplicit).toNat = stored := by
      show (e + 1023 + 52).toNat = stored
      omega
    have hlog : m.log2 + 1 = Format.binary64.mantissaBits := by
      rw [log2_of_isNormal hlow hhigh]
      rfl
    have hstored' : ¬ 2 ^ 11 ≤ stored + 1 := by omega
    simp only [UnpackedFloat.pack]
    rw [hbias, if_neg hstored', if_pos hlog]
  show UnpackedFloat.unpack Format.binary64 (UnpackedFloat.pack Format.binary64 _) = _
  rw [hpack, UnpackedFloat.unpack]
  simp only [unpackMantissa_packComponents, unpackExponent_packComponents, unpackSign_packComponents,
    Sign.ofBitVec_toBitVec]
  rw [if_neg hones, if_neg hzeros]
  congr 1
  · exact toNat_one_append hlow hhigh
  · show ((BitVec.ofNat 11 stored).toNat : Int) - (1023 + 52) = e
    omega

lemma le_of_below (hx : IsNormal x) (hy : IsNormal y) (h : Below x y) : (number x).le (number y) = true := by
  rw [number_eq hx, number_eq hy]
  simp only [UnpackedFloat.le, UnpackedFloat.compare, Option.any_some]
  obtain hlt | ⟨heq, hle⟩ := h
  · rw [Int.compare_eq_lt.mpr hlt]
    rfl
  · rw [Int.compare_eq_eq.mpr heq]
    exact Nat.isLE_compare.mpr hle

/-! ## Counts -/

/-- The normal number next to a count that is not zero. -/
def nearest (n : Nat) : Nat × Int :=
  carry ((ExtendedMantissa.ofMantissaAndAccuracy (n <<< (52 - n.log2)) .exact >>> (n.log2 - 52)).roundedMantissa)
    (n.log2 - 52)

variable {n d : Nat}

lemma log2_shiftLeft (hn : n ≠ 0) (s : Nat) : (n <<< s).log2 = n.log2 + s := by
  obtain ⟨hlow, hhigh⟩ := (Nat.log2_eq_iff hn).mp rfl
  rw [Nat.shiftLeft_eq, Nat.log2_eq_iff (by positivity), Nat.pow_add, Nat.add_right_comm, Nat.pow_add]
  exact ⟨Nat.mul_le_mul_right _ hlow, Nat.mul_lt_mul_of_pos_right hhigh (by positivity)⟩

lemma log2_shifted (hn : n ≠ 0) : (n <<< (52 - n.log2)).log2 = 52 + (n.log2 - 52) := by
  rw [log2_shiftLeft hn]
  omega

lemma shifted_ne_zero (hn : n ≠ 0) (s : Nat) : n <<< s ≠ 0 := by
  rw [Nat.shiftLeft_eq]
  positivity

lemma log2_lt_of_lt (hn : n ≠ 0) (hbound : n < 2 ^ 64) : n.log2 < 64 := (Nat.log2_lt hn).mpr hbound

lemma round_count (hn : n ≠ 0) :
    UnpackedFloat.ofNat Format.binary64 n = number (nearest n) := by
  have hpos : compare (n : Int) 0 = .gt := Int.compare_eq_gt.mpr (by omega)
  have hshift : ((0 : Int) - ((n.log2 : Int) - 52 + 0)).toNat = 52 - n.log2 := by omega
  have hexponent : (0 : Int) - (52 - n.log2 : Nat) + (n.log2 - 52 : Nat) = n.log2 - 52 := by omega
  rw [UnpackedFloat.ofNat, UnpackedFloat.ofInt, UnpackedFloat.normalize, hpos]
  simp only [UnpackedFloat.round, decreaseExponent, Int.toNat_natCast, targetExponent_eq (show -1000 ≤ (0 : Int) by decide), hshift]
  rw [roundWithAccuracy_eq (shifted_ne_zero hn _) (log2_shifted hn) (by omega), hexponent, nearest]

lemma isNormal_nearest (hn : n ≠ 0) (hbound : n < 2 ^ 64) : IsNormal (nearest n) := by
  have hlog := log2_lt_of_lt hn hbound
  exact isNormal_carry (roundedMantissa_shift_bounds (shifted_ne_zero hn _) (log2_shifted hn) .exact).1
    (by omega) (by omega)

/-- **Counts keep their order.** -/
lemma nearest_below (hn : n ≠ 0) (h : n ≤ d) : Below (nearest n) (nearest d) := by
  have hd : d ≠ 0 := by omega
  have hle : n.log2 ≤ d.log2 := (Nat.le_log2 hd).mpr ((Nat.log2_self_le hn).trans h)
  -- counts of one length are shifted alike; of different lengths, the exponents decide
  obtain hlt | heq := Nat.lt_or_eq_of_le hle
  · refine carry_below_of_lt ?_ (by omega)
    exact (roundedMantissa_shift_bounds (shifted_ne_zero hd _) (log2_shifted hd) .exact).1
  · rw [nearest, nearest, heq]
    refine carry_below (roundedMantissa_mono (code_shift_mono ?_))
    show 4 * n <<< (52 - d.log2) ≤ 4 * d <<< (52 - d.log2)
    rw [Nat.shiftLeft_eq, Nat.shiftLeft_eq]
    gcongr

lemma nearest_exponent (hn : n ≠ 0) (hbound : n < 2 ^ 64) : -52 ≤ (nearest n).2 ∧ (nearest n).2 ≤ 12 := by
  have hlog := log2_lt_of_lt hn hbound
  rw [nearest, carry]
  split_ifs
  · simp only
    omega
  · simp only
    omega

/-! ## Quotients -/

lemma toModel_one : (1.0 : Float).toModel.unpack = number (2 ^ 52, -52) := by
  have hone : (1.0 : Float).toModel = Float.Model.pack (number (2 ^ 52, -52)) := by decide +kernel
  rw [hone, unpack_pack ⟨le_rfl, by decide, by decide, by decide⟩]

lemma carry_below_one (h : e < -52) : Below (carry rounded e) (2 ^ 52, -52) := by
  rw [carry]
  split_ifs
  · exact .inl h
  · obtain hlt | heq := Int.lt_or_eq_of_le (Int.add_one_le_of_lt h)
    · exact .inl hlt
    · exact .inr ⟨heq, le_rfl⟩

/-- The quotient before it is rounded: enough bits of it, and what is left over. -/
lemma div_number (hx : IsNormal x) (hy : IsNormal y) (hspan : y.2 - x.2 ≤ 800) :
    UnpackedFloat.div Format.binary64 (number x) (number y) =
      roundWithAccuracy Format.binary64 .positive (x.1 <<< 53 / y.1) (x.2 - y.2 - 53)
        (accuracyOfFraction (x.1 <<< 53 % y.1) y.1) := by
  have hmin : Format.binary64.minExponent = -1074 := by decide
  have hbits : Format.binary64.mantissaBits = 53 := rfl
  have htarget : min (x.2 - y.2) (Format.binary64.targetExponent (totalExponent x.1 x.2 - totalExponent y.1 y.2)) =
      x.2 - y.2 - 53 := by
    rw [Format.targetExponent, totalExponent, totalExponent, log2_of_isNormal hx.low hx.high,
      log2_of_isNormal hy.low hy.high, hmin, hbits]
    omega
  have hshift : (x.2 - y.2 - (x.2 - y.2 - 53)).toNat = 53 := by omega
  rw [number_eq hx, number_eq hy]
  simp only [UnpackedFloat.div, divCore, htarget, hshift]
  rfl

/-- **A quotient of ordered numbers is at most one.** -/
lemma div_below_one (hx : IsNormal x) (hy : IsNormal y) (h : Below x y) (hspan : y.2 - x.2 ≤ 800) :
    ∃ z, IsNormal z ∧ Below z (2 ^ 52, -52) ∧
      UnpackedFloat.div Format.binary64 (number x) (number y) = number z := by
  rw [div_number hx hy hspan]
  obtain ⟨hxlow, hxhigh, -, -⟩ := hx
  obtain ⟨hylow, hyhigh, -, -⟩ := hy
  have hlow : 2 ^ 52 ≤ x.1 <<< 53 / y.1 := by
    rw [Nat.shiftLeft_eq, Nat.le_div_iff_mul_le (by omega)]
    omega
  have hhigh : x.1 <<< 53 / y.1 < 2 ^ 54 := by
    rw [Nat.shiftLeft_eq, Nat.div_lt_iff_lt_mul (by omega)]
    omega
  have hexponent : x.2 ≤ y.2 := by
    obtain hlt | ⟨heq, -⟩ := h
    · exact hlt.le
    · exact heq.le
  -- the quotient has 53 bits or one more, which is rounded away
  obtain hbits | hbits := Nat.lt_or_ge (x.1 <<< 53 / y.1) (2 ^ 53)
  · have hlog : (x.1 <<< 53 / y.1).log2 = 52 + 0 := log2_of_isNormal hlow hbits
    rw [roundWithAccuracy_eq (by omega) hlog (by omega)]
    refine ⟨_, isNormal_carry (roundedMantissa_shift_bounds (by omega) hlog _).1 (by omega) (by omega), ?_, rfl⟩
    exact carry_below_one (by omega)
  · have hlog : (x.1 <<< 53 / y.1).log2 = 52 + 1 := (Nat.log2_eq_iff (by omega)).mpr ⟨hbits, hhigh⟩
    rw [roundWithAccuracy_eq (by omega) hlog (by omega)]
    refine ⟨_, isNormal_carry (roundedMantissa_shift_bounds (by omega) hlog _).1 (by omega) (by omega), ?_, rfl⟩
    obtain hlt | ⟨heq, hle⟩ := h
    · exact carry_below_one (by omega)
    · -- equal exponents leave the one case of equal significands, and that quotient is exact
      have hge : y.1 ≤ x.1 := by
        rw [Nat.shiftLeft_eq, ge_iff_le, Nat.le_div_iff_mul_le (by omega), Nat.mul_comm] at hbits
        exact Nat.le_of_mul_le_mul_right hbits (by decide)
      have hsame : x.1 = y.1 := Nat.le_antisymm hle hge
      have hquotient : x.1 <<< 53 / y.1 = 2 ^ 53 := by
        rw [hsame, Nat.shiftLeft_eq, Nat.mul_div_cancel_left _ (by omega)]
      have hrest : x.1 <<< 53 % y.1 = 0 := by
        rw [hsame, Nat.shiftLeft_eq, Nat.mul_mod_right]
      have hone : carry (ExtendedMantissa.ofMantissaAndAccuracy (2 ^ 53) .exact >>> 1).roundedMantissa
          (0 - 53 + (1 : Nat)) = (2 ^ 52, -52) := by decide
      have hexact : accuracyOfFraction 0 y.1 = .exact := rfl
      rw [hquotient, hrest, heq, Int.sub_self, hexact, hone]
      exact .inr ⟨rfl, le_rfl⟩

lemma unpack_toFloat {count : UInt64} (h : count.toNat ≠ 0) :
    count.toFloat.toModel.unpack = number (nearest count.toNat) := by
  show (Float.Model.pack (UnpackedFloat.ofNat Format.binary64 count.toNat)).unpack = _
  rw [round_count h, unpack_pack (isNormal_nearest h count.toNat_lt)]

lemma unpack_zero : (Float.Model.pack (.zero .positive)).unpack = .zero .positive := unpack_packedZero

/-- **A share is at most one.** -/
theorem toFloat_div_toFloat_le_one {part whole : UInt64} (h : part ≤ whole) (hwhole : 0 < whole) :
    part.toFloat / whole.toFloat ≤ 1.0 := by
  have hw : whole.toNat ≠ 0 := by
    rw [UInt64.lt_iff_toNat_lt] at hwhole
    exact Nat.ne_of_gt hwhole
  have hle : part.toNat ≤ whole.toNat := UInt64.le_iff_toNat_le.mp h
  suffices hquotient : (Float.Model.pack (UnpackedFloat.div Format.binary64 part.toFloat.toModel.unpack
      whole.toFloat.toModel.unpack)).unpack.le (1.0 : Float).toModel.unpack = true from decide_eq_true hquotient
  rw [unpack_toFloat hw, toModel_one]
  by_cases hp : part.toNat = 0
  · obtain rfl : part = 0 := UInt64.toNat_inj.mp hp
    have hzero : (UInt64.toFloat 0).toModel.unpack = .zero .positive := unpack_zero
    rw [hzero, number_eq (isNormal_nearest hw whole.toNat_lt)]
    simp only [UnpackedFloat.div]
    have hsign : (Sign.positive / Sign.positive) = Sign.positive := rfl
    rw [hsign, unpack_zero]
    rfl
  · have hpart := nearest_exponent hp part.toNat_lt
    have hexponent := nearest_exponent hw whole.toNat_lt
    obtain ⟨z, hz, hbelow, hdiv⟩ := div_below_one (isNormal_nearest hp part.toNat_lt)
      (isNormal_nearest hw whole.toNat_lt) (nearest_below hp hle) (by omega)
    rw [unpack_toFloat hp, hdiv, unpack_pack hz]
    exact le_of_below hz ⟨le_rfl, by decide, by decide, by decide⟩ hbelow

end OpTiming.Ratio
