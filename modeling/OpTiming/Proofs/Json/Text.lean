import Mathlib.Tactic.Common
import OpTiming.Json.Text

/-!
# String literals read back

A text between quotation marks is read as that text, whatever characters it holds.  Writing treats every
character by itself, and so reading is followed one escaped character at a time (`scan_escape`): a raw
character, a short escape, or a four-digit escape.

The four-digit escape is the only one with a difficulty.  The reader looks beyond it for the second half
of a character, and what follows may well be another such escape.  But no control character is half of
one, so the reader never takes the two together (`scan_unit`).
-/

namespace OpTiming.Json.Text

/-! ## One escape -/

lemma scan_raw {c : Char} (hquote : c ≠ '"') (hbackslash : c ≠ '\\') (hcontrol : 32 ≤ c.toNat)
    (rest : List Char) : scan (c :: rest) = (scan rest).map (before c) := by
  have hescaped : (decide (c.toNat < 32) || c == '\\') = false := by simp [hcontrol, hbackslash]
  rw [scan, hescaped, if_neg Bool.false_ne_true]
  · exact hquote
  all_goals
    intros
    contradiction

lemma scan_short {c e : Char} (h : shortEscape? c = some e) (rest : List Char) :
    scan ('\\' :: c :: rest) = (scan rest).map (before e) := by
  have hc : c ≠ 'u' := by
    rintro rfl
    cases h
  rw [scan, h]
  all_goals
    intros
    contradiction

/-- A four-digit escape that is not half a character is read by itself, also before another one. -/
lemma scan_unit {a b c d : Char} {n : Nat} (h : unit? a b c d = some n) (hhigh : isHigh n = false)
    (hlow : isLow n = false) (rest : List Char) :
    scan ('\\' :: 'u' :: a :: b :: c :: d :: rest) = (scan rest).map (before (Char.ofNat n)) := by
  by_cases hpair : ∃ e f g i rest', rest = '\\' :: 'u' :: e :: f :: g :: i :: rest'
  · obtain ⟨e, f, g, i, rest', rfl⟩ := hpair
    simp only [scan, h, hhigh, hlow, Bool.false_eq_true, if_false]
  · rw [scan]
    · simp only [h, hhigh, hlow, Bool.or_self, Bool.false_eq_true, if_false]
    · exact fun e f g i rest' hrest => hpair ⟨e, f, g, i, rest', hrest⟩

/-! ## One character -/

lemma unit?_control : ∀ n < 32, unit? '0' '0' (hexDigit (n / 16)) (hexDigit n) = some n := by decide

/-- No control character is half of a character. -/
lemma isHigh_isLow_control : ∀ n < 32, isHigh n = false ∧ isLow n = false := by decide

lemma scan_control {c : Char} (hcontrol : c.toNat < 32) (rest : List Char) :
    scan ('\\' :: 'u' :: '0' :: '0' :: hexDigit (c.toNat / 16) :: hexDigit c.toNat :: rest) =
      (scan rest).map (before c) := by
  obtain ⟨hhigh, hlow⟩ := isHigh_isLow_control c.toNat hcontrol
  rw [scan_unit (unit?_control c.toNat hcontrol) hhigh hlow, Char.ofNat_toNat]

/-- A character with a given code is the one that its short escape stands for. -/
lemma scan_short_of_toNat {c e : Char} {n : Nat} (h : shortEscape? e = some (Char.ofNat n))
    (hc : c.toNat = n) (rest : List Char) : scan ('\\' :: e :: rest) = (scan rest).map (before c) := by
  rw [scan_short h, ← hc, Char.ofNat_toNat]

/-- **An escaped character is read as that character.** -/
lemma scan_escape (c : Char) (rest : List Char) :
    scan (escape c ++ rest) = (scan rest).map (before c) := by
  rw [escape]
  split
  next hquote =>
    rw [eq_of_beq hquote]
    exact scan_short rfl rest
  next hquote =>
    split
    next hbackslash =>
      rw [eq_of_beq hbackslash]
      exact scan_short rfl rest
    next hbackslash =>
      -- the five control characters with a short escape
      iterate 5
        split
        next hc => exact scan_short_of_toNat rfl hc rest
      split
      next hcontrol => exact scan_control hcontrol rest
      next hcontrol =>
        rw [beq_iff_eq] at hquote hbackslash
        exact scan_raw hquote hbackslash (Nat.le_of_not_lt hcontrol) rest

/-! ## A text -/

/-- **A text between quotation marks is read as that text**, and what follows the closing mark is left. -/
theorem scan_quoted (cs rest : List Char) :
    scan (cs.flatMap escape ++ '"' :: rest) = some (some cs, rest) := by
  induction cs with
  | nil => rw [List.flatMap_nil, List.nil_append, scan]
  | cons c cs ih =>
      rw [List.flatMap_cons, List.append_assoc, scan_escape, ih]
      rfl

end OpTiming.Json.Text
