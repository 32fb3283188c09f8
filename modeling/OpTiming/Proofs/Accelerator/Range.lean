import OpTiming.Proofs.Accelerator.Canonical
import OpTiming.Proofs.Fault
import OpTiming.Proofs.Numeral

/-!
# What the operations of a range mean

Canonical ranges carry no more than they declare, so every question about a range is a question about the
list of its declared components.

* **`show_inj`** — the text of a range tells what it declares: no digit is a comma, so the text splits at
  its commas into the numerals (`splitOn_intercalate`).
* **`Canonical.compare_eq`** — the order of ranges is that of dimensions and then, letter by letter, that
  of the declared components.
* **`Canonical.total_eq_ok_iff`**, **`Canonical.total_eq_error_iff`** — the total is the product of the
  declared components, unless it stops at a part of them that does not fit.
* **`made_ranges_mean`** — all of this for the ranges that can be made.
-/

namespace OpTiming.Accelerator.Range

open OpTiming.Text

/-! ## Texts -/

/-- The decimal digits of a component. -/
def numeral (size : UInt64) : List Char := Nat.toDigits 10 size.toNat

lemma toList_toString (size : UInt64) : (toString size).toList = numeral size :=
  Numeral.toList_toString size

lemma numeral_ne_nil (size : UInt64) : numeral size ≠ [] := Nat.toDigits_ne_nil

lemma comma_not_mem_numeral (size : UInt64) : ',' ∉ numeral size := by
  intro h
  have hdigit := (Numeral.isRun_iff.mp (Numeral.isRun_toDigits size.toNat)).2 ',' h
  exact absurd hdigit (by decide)

lemma numeral_injective : Function.Injective numeral :=
  fun _ _ h => UInt64.toNat_inj.mp (Numeral.toDigits_injective h)

/-- Pieces without commas, set apart by a comma and a blank, are found again at the commas. -/
lemma splitOn_intercalate {piece : List Char} {pieces : List (List Char)} (hpiece : ',' ∉ piece)
    (hpieces : ∀ p ∈ pieces, ',' ∉ p) :
    ([',', ' '].intercalate (piece :: pieces)).splitOn ',' = piece :: pieces.map (' ' :: ·) := by
  induction pieces generalizing piece with
  | nil =>
    rw [List.intercalate_singleton, List.map_nil]
    exact List.splitOn_eq_singleton hpiece
  | cons next pieces ih =>
    obtain ⟨hnext, hpieces⟩ := List.forall_mem_cons.mp hpieces
    have hblank : ',' ∉ ' ' :: next := by simp [hnext]
    -- the blank behind the comma is taken for the first letter of the next piece
    have hshift : ' ' :: [',', ' '].intercalate (next :: pieces) =
        [',', ' '].intercalate ((' ' :: next) :: pieces) := by
      cases pieces <;> simp
    rw [List.intercalate_cons_cons, List.append_assoc]
    show (piece ++ ',' :: (' ' :: [',', ' '].intercalate (next :: pieces))).splitOn ',' = _
    rw [List.splitOn_append_cons_self_of_not_mem hpiece, hshift, ih hblank hpieces, List.map_cons]

/-- Numerals set apart by commas and blanks tell which components they stand for. -/
lemma intercalate_numerals_inj {sizes sizes' : List UInt64}
    (h : [',', ' '].intercalate (sizes.map numeral) = [',', ' '].intercalate (sizes'.map numeral)) :
    sizes = sizes' := by
  have hcomma : ∀ sizes : List UInt64, ∀ p ∈ sizes.map numeral, ',' ∉ p := by
    simp [comma_not_mem_numeral]
  have hsplit := congrArg (List.splitOn ',') h
  match sizes, sizes' with
  | [], [] => rfl
  | [], size :: sizes =>
    rw [List.map_cons, splitOn_intercalate (comma_not_mem_numeral size) (hcomma sizes)] at hsplit
    exact absurd (List.cons.inj hsplit).1.symm (numeral_ne_nil size)
  | size :: sizes, [] =>
    rw [List.map_cons, splitOn_intercalate (comma_not_mem_numeral size) (hcomma sizes)] at hsplit
    exact absurd (List.cons.inj hsplit).1 (numeral_ne_nil size)
  | size :: sizes, size' :: sizes' =>
    rw [List.map_cons, List.map_cons, splitOn_intercalate (comma_not_mem_numeral size) (hcomma sizes),
      splitOn_intercalate (comma_not_mem_numeral size') (hcomma sizes')] at hsplit
    obtain ⟨hfirst, hrest⟩ := List.cons.inj hsplit
    have hblank : Function.Injective fun p : List Char => ' ' :: p := fun _ _ h => (List.cons.inj h).2
    rw [numeral_injective hfirst, numeral_injective.list_map (hblank.list_map hrest)]

lemma toList_show (r : Range) :
    r.show.toList = '\x7b' :: [',', ' '].intercalate (r.toList.map numeral) ++ ['\x7d'] := by
  rw [Range.show, String.toList_append, String.toList_append, String.toList_intercalate, List.map_map]
  simp [Function.comp_def, toList_toString]

/-- **The text of a range tells what it declares.** -/
lemma show_inj {a b : Range} : a.show = b.show ↔ a.toList = b.toList := by
  constructor
  · intro h
    have hchars := congrArg String.toList h
    rw [toList_show, toList_show, List.append_cancel_right_eq, List.cons.injEq] at hchars
    exact intercalate_numerals_inj hchars.2
  · intro h
    rw [Range.show, Range.show, h]

/-! ## Order -/

/-- Ranges are compared by their dimensions and then by all their components. -/
lemma compare_eq (a b : Range) :
    compare a b = (Ord.compare a.dimension b.dimension).then (Ord.compare a.components b.components) := by
  simp [compare, components, List.compare_cons_cons]

lemma compare_eq_compareLex : compare = compareLex (compareOn dimension) (compareOn components) := by
  funext a b
  exact compare_eq a b

instance : Std.TransCmp compare := by
  rw [compare_eq_compareLex]
  infer_instance

instance : Std.LawfulEqCmp compare where
  compare_self := Std.ReflCmp.compare_self
  eq_of_compare := by
    intro a b h
    rw [compare_eq, Ordering.then_eq_eq] at h
    exact eq_of_components (Std.LawfulEqCmp.eq_of_compare h.1) (Std.LawfulEqCmp.eq_of_compare h.2)

/-- What lists of one length have in common at their ends does not count when they are compared. -/
lemma compare_append_right {xs ys : List UInt64} (h : xs.length = ys.length) (zs : List UInt64) :
    Ord.compare (xs ++ zs) (ys ++ zs) = Ord.compare xs ys := by
  induction xs generalizing ys with
  | nil =>
    obtain rfl := List.length_eq_zero_iff.mp h.symm
    exact Std.ReflCmp.compare_self
  | cons x xs ih =>
    obtain ⟨y, ys, rfl⟩ := List.exists_cons_of_length_eq_add_one h.symm
    rw [List.cons_append, List.cons_append, List.compare_cons_cons, List.compare_cons_cons,
      ih (Nat.succ.inj h)]

namespace Canonical

variable {a b r : Range}

/-- **The order of ranges** is that of dimensions, and among ranges of one dimension the lexicographic
one of what they declare. -/
lemma compare_eq (ha : a.Canonical) (hb : b.Canonical) :
    compare a b = (Ord.compare a.dimension b.dimension).then (Ord.compare a.toList b.toList) := by
  rw [Range.compare_eq]
  by_cases hdimension : a.dimension = b.dimension
  · have hlength : a.toList.length = b.toList.length := by
      rw [ha.length_toList, hb.length_toList, hdimension]
    rw [ha.components_eq, hb.components_eq, ← hdimension, compare_append_right hlength]
  · rcases hcompare : Ord.compare a.dimension b.dimension with _ | _ | _
    · rfl
    · exact absurd (Std.LawfulEqCmp.eq_of_compare hcompare) hdimension
    · rfl

/-! ## Totals -/

/-- Padding does not count for the total. -/
lemma total_eq (h : r.Canonical) (hdimension : r.dimension ≠ 0) :
    r.total = r.toList.foldlM checkedMul 1 := by
  rw [total, h.components_eq, padding, if_neg hdimension, List.foldlM_append]
  rcases r.toList.foldlM checkedMul 1 with fault | total
  · rfl
  · exact foldlM_checkedMul_replicate_one _ total

lemma total_eq_zero (h : r.Canonical) (hdimension : r.dimension = 0) : r.total = .ok 0 := by
  rw [total, h.components_eq, toList, hdimension]
  rfl

/-- **The total is the product of the declared components** if it and all its parts from the left fit. -/
lemma total_eq_ok_iff (h : r.Canonical) (hdimension : r.dimension ≠ 0) {count : UInt64} :
    r.total = .ok count ↔
      (∀ initial, initial <+: r.toList → exactProduct initial < 2 ^ 64) ∧
        count.toNat = exactProduct r.toList := by
  rw [h.total_eq hdimension, foldlM_checkedMul_eq_ok_iff]
  simp

/-- **The total stops** at a part that does not fit, also where a zero follows. -/
lemma total_eq_error_iff (h : r.Canonical) (hdimension : r.dimension ≠ 0) {fault : Fault} :
    r.total = .error fault ↔
      fault = .multiplyOverflow ∧ ∃ initial, initial <+: r.toList ∧ 2 ^ 64 ≤ exactProduct initial := by
  rw [h.total_eq hdimension, foldlM_checkedMul_eq_error_iff]
  simp

end Canonical

/-! ## Ranges that can be made -/

/-- **What ranges mean.**  Ranges that can be made are canonical, and so their operations speak about what
they declare.  Two of them are the same iff they declare the same, and iff their texts are the same.  They
are totally ordered, by dimension and then by the declared components.  A component is given iff it is
declared.  The total is zero without dimensions; otherwise it is the product of the declared components,
and it stops iff one of their products from the left does not fit. -/
theorem made_ranges_mean {a b : Range} (ha : a.Made) (hb : b.Made) :
    a.Canonical ∧
      (a = b ↔ a.dimension = b.dimension ∧ a.toList = b.toList) ∧
      (a = b ↔ a.show = b.show) ∧
      compare a b = (Ord.compare a.dimension b.dimension).then (Ord.compare a.toList b.toList) ∧
      (compare a b = .eq ↔ a = b) ∧
      compare b a = (compare a b).swap ∧
      (∀ c, (compare a b).isLE → (compare b c).isLE → (compare a c).isLE) ∧
      (∀ index, index < a.dimension → ∃ size, a.toList[index]? = some size ∧ a.get index = .ok size) ∧
      (∀ index, a.dimension ≤ index → a.get index = .error (.rangeIndex index a.dimension)) ∧
      (a.dimension = 0 → a.total = .ok 0) ∧
      (a.dimension ≠ 0 →
        (∀ count, a.total = .ok count ↔
          (∀ initial, initial <+: a.toList → exactProduct initial < 2 ^ 64) ∧
            count.toNat = exactProduct a.toList) ∧
        ∀ fault, a.total = .error fault ↔ fault = .multiplyOverflow ∧
          ∃ initial, initial <+: a.toList ∧ 2 ^ 64 ≤ exactProduct initial) := by
  have ha := ha.canonical
  have hb := hb.canonical
  have hext : a = b ↔ a.toList = b.toList := ⟨congrArg toList, ha.ext hb⟩
  refine ⟨ha, ?_, ?_, ha.compare_eq hb, Std.LawfulEqCmp.compare_eq_iff_eq, Std.OrientedCmp.eq_swap,
    fun _ => Std.TransCmp.isLE_trans, ?_, fun _ => get_of_le, ha.total_eq_zero, ?_⟩
  · constructor
    · rintro rfl
      exact ⟨rfl, rfl⟩
    · exact fun h => ha.ext hb h.2
  · rw [show_inj, hext]
  · intro index hindex
    rw [← ha.length_toList] at hindex
    exact ⟨_, List.getElem?_eq_getElem hindex, get_eq_ok_iff.mpr (List.getElem?_eq_getElem hindex)⟩
  · exact fun hdimension =>
      ⟨fun _ => ha.total_eq_ok_iff hdimension, fun _ => ha.total_eq_error_iff hdimension⟩

/-- A range that was cut down is known by its text, it stands behind every range of fewer dimensions, and a
range whose first two components do not fit together has no total, although the third one is zero. -/
theorem made_ranges_mean_of_sample :
    ∃ cut, divideDown (d3 100 17 5) (d3 32 4 5) = .ok cut ∧
      (cut = d3 96 16 5 ↔ cut.show = "\x7b96, 16, 5\x7d") ∧
      compare cut (d2 1000 1) = .gt ∧
      (d3 9223372036854775808 2 0).total = .error .multiplyOverflow := by
  have hcut : divideDown (d3 100 17 5) (d3 32 4 5) = .ok (d3 96 16 5) := rfl
  have hmade : Made (d3 96 16 5) := .divideDown (.d3 100 17 5) (.d3 32 4 5) hcut
  obtain ⟨-, -, hshow, -⟩ := made_ranges_mean hmade (.d3 96 16 5)
  obtain ⟨-, -, -, hcompare, -⟩ := made_ranges_mean hmade (.d2 1000 1)
  obtain ⟨-, -, -, -, -, -, -, -, -, -, htotal⟩ :=
    made_ranges_mean (.d3 9223372036854775808 2 0) .empty
  have hover : [9223372036854775808, 2] <+: (d3 9223372036854775808 2 0).toList ∧
      2 ^ 64 ≤ exactProduct [9223372036854775808, 2] := by decide
  exact ⟨_, hcut, hshow, hcompare, ((htotal (by decide)).2 _).mpr ⟨rfl, _, hover⟩⟩

end OpTiming.Accelerator.Range
