import Mathlib.Data.List.Basic
import OpTiming.Proofs.Text.Blank
import OpTiming.Text.Numeral

/-!
# Runs of digits

A count is written by the decimal digits of `Nat.toDigits`.  They form a run that denotes the count, and
the first of them is a zero only for the count zero.

* **`Denotes`** — which texts are read as a number, and as which: the grammar of numerals.
* **`readUInt64?_eq_some_iff`** — the reader takes these and no others.
-/

namespace OpTiming.Text.Numeral

lemma isRun_iff {cs : List Char} : isRun cs = true ↔ cs ≠ [] ∧ ∀ c ∈ cs, c.isDigit = true := by
  simp [isRun]

lemma isRun_toDigits (n : Nat) : isRun (Nat.toDigits 10 n) = true :=
  isRun_iff.mpr ⟨Nat.toDigits_ne_nil,
    fun _ hc => Nat.isDigit_of_mem_toDigits (by decide) (by decide) hc⟩

/-- **The digits of a count denote it.** -/
lemma value_toDigits (n : Nat) : value (Nat.toDigits 10 n) = n :=
  Nat.ofDigitChars_toDigits (by decide) (by decide)

lemma head?_toDigits_ne_zero {n : Nat} (hn : n ≠ 0) : (Nat.toDigits 10 n).head? ≠ some '0' := by
  induction n using Nat.strongRecOn with
  | _ n ih =>
    by_cases hsmall : n < 10
    · have hdigit : ∀ d < 10, d ≠ 0 → Nat.digitChar d ≠ '0' := by decide
      rw [Nat.toDigits_of_lt_base hsmall, List.head?_cons, ne_eq, Option.some.injEq]
      exact hdigit n hsmall hn
    · rw [Nat.toDigits_of_base_le (by decide) (by omega),
        List.head?_append_of_ne_nil _ Nat.toDigits_ne_nil]
      exact ih (n / 10) (by omega) (by omega)

lemma toDigits_injective : Function.Injective (Nat.toDigits 10) := by
  intro m n h
  rw [← value_toDigits m, h, value_toDigits]

lemma toList_toString (count : UInt64) : (toString count).toList = Nat.toDigits 10 count.toNat := by
  show (Nat.repr count.toNat).toList = _
  rw [Nat.repr, String.toList_ofList]

/-! ## Reading -/

/-- A text is a numeral for a number: decimal digits that denote it, perhaps after a plus sign. -/
def Denotes (cs : List Char) (n : Nat) : Prop :=
  ∃ digits, (cs = digits ∨ cs = '+' :: digits) ∧ digits ≠ [] ∧ (∀ c ∈ digits, c.isDigit = true) ∧
    value digits = n

variable {cs : List Char} {n : Nat}

lemma eq_dropPlus_or (cs : List Char) : cs = dropPlus cs ∨ cs = '+' :: dropPlus cs := by
  rw [dropPlus.eq_def]
  split
  · exact .inr rfl
  · exact .inl rfl

/-- A run of digits has no plus sign before it. -/
lemma dropPlus_of_isRun (h : isRun cs = true) : dropPlus cs = cs := by
  obtain heq | heq := eq_dropPlus_or cs
  · exact heq.symm
  · have hplus : '+' ∈ cs := by
      rw [heq]
      exact List.mem_cons_self ..
    exact absurd ((isRun_iff.mp h).2 _ hplus) (by decide)

lemma denotes_iff : Denotes cs n ↔ isRun (dropPlus cs) = true ∧ value (dropPlus cs) = n := by
  constructor
  · rintro ⟨digits, hcs, hne, hdigits, hvalue⟩
    have hrun : isRun digits = true := isRun_iff.mpr ⟨hne, hdigits⟩
    have hdrop : dropPlus cs = digits := by
      obtain rfl | rfl := hcs
      · exact dropPlus_of_isRun hrun
      · rfl
    rw [hdrop]
    exact ⟨hrun, hvalue⟩
  · rintro ⟨hrun, hvalue⟩
    obtain ⟨hne, hdigits⟩ := isRun_iff.mp hrun
    exact ⟨dropPlus cs, eq_dropPlus_or cs, hne, hdigits, hvalue⟩

/-- A written count is a numeral for it. -/
lemma denotes_repr (n : Nat) : Denotes n.repr.toList n := by
  have hrun := isRun_iff.mp (isRun_toDigits n)
  rw [Nat.repr, String.toList_ofList]
  exact ⟨_, .inl rfl, hrun.1, hrun.2, value_toDigits n⟩

lemma denotes_toString (count : UInt64) : Denotes (toString count).toList count.toNat := denotes_repr _

lemma Denotes.isDigit_or_eq (h : Denotes cs n) : ∀ c ∈ cs, c.isDigit = true ∨ c = '+' := by
  obtain ⟨digits, rfl | rfl, -, hdigits, -⟩ := h
  · exact fun c hc => .inl (hdigits c hc)
  · intro c hc
    obtain rfl | hc := List.mem_cons.mp hc
    · exact .inr rfl
    · exact .inl (hdigits c hc)

/-- There are no blanks in a numeral. -/
lemma Denotes.blank_free (h : Denotes cs n) : ∀ c ∈ cs, isBlank c = false := by
  intro c hc
  obtain hdigit | rfl := h.isDigit_or_eq c hc
  · exact isBlank_of_isDigit hdigit
  · rfl

lemma read?_eq_some_iff {bound : Nat} : read? bound cs = some n ↔ n < bound ∧ Denotes cs n := by
  rw [read?, readDigits?, denotes_iff, Option.ite_none_right_eq_some, Option.some.injEq]
  constructor
  · rintro ⟨⟨hrun, hlt⟩, rfl⟩
    exact ⟨hlt, hrun, rfl⟩
  · rintro ⟨hlt, hrun, rfl⟩
    exact ⟨⟨hrun, hlt⟩, rfl⟩

/-- Into a type that holds the numbers below the bound, and only these. -/
lemma map_read?_eq_some_iff {α : Type} {bound : Nat} {ofNat : Nat → α} {toNat : α → Nat}
    (hlt : ∀ x, toNat x < bound) (hto : ∀ n < bound, toNat (ofNat n) = n)
    (hof : ∀ x, ofNat (toNat x) = x) {x : α} :
    (read? bound cs).map ofNat = some x ↔ Denotes cs (toNat x) := by
  rw [Option.map_eq_some_iff]
  constructor
  · rintro ⟨n, hn, rfl⟩
    obtain ⟨hn, hdenotes⟩ := read?_eq_some_iff.mp hn
    rwa [hto n hn]
  · intro hdenotes
    exact ⟨toNat x, read?_eq_some_iff.mpr ⟨hlt x, hdenotes⟩, hof x⟩

/-- **A 64-bit number is read from its numerals**, and from nothing else. -/
lemma readUInt64?_eq_some_iff {count : UInt64} : readUInt64? cs = some count ↔ Denotes cs count.toNat :=
  map_read?_eq_some_iff UInt64.toNat_lt (fun _ hn => UInt64.toNat_ofNat_of_lt' hn) (fun _ => UInt64.ofNat_toNat)

/-- **A 32-bit number is read from its numerals**, and from nothing else. -/
lemma readUInt32?_eq_some_iff {count : UInt32} : readUInt32? cs = some count ↔ Denotes cs count.toNat :=
  map_read?_eq_some_iff UInt32.toNat_lt (fun _ hn => UInt32.toNat_ofNat_of_lt' hn) (fun _ => UInt32.ofNat_toNat)

lemma readUInt64?_eq_none_iff : readUInt64? cs = none ↔ ∀ count : UInt64, ¬ Denotes cs count.toNat := by
  simp only [Option.eq_none_iff_forall_ne_some, ne_eq, readUInt64?_eq_some_iff]

end OpTiming.Text.Numeral
