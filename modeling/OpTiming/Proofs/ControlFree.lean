import OpTiming.Decimal.Fixed
import OpTiming.Proofs.Json.Value

/-!
# Texts without control characters

Output is read line by line, so what is put into a line must not end it.  **`ControlFree`** says more
than that a text has no line feed: it has no character below the blank at all.  It holds of everything
that the library writes into a line *except* the texts that it is given:

* **Numbers in fixed places**, because they are made of digits, signs, points and the words for what is
  not finite (`Decimal.controlFree_fixed`).
* **JSON texts without blanks**, because a number literal is made of characters of numbers and a string
  between quotation marks has its control characters escaped — here even the texts that are given do no
  harm (`Json.Value.controlFree_compact`).
-/

namespace OpTiming

/-- A text has no character below the blank. -/
def ControlFree (cs : List Char) : Prop := ∀ c ∈ cs, 32 ≤ c.toNat

instance (cs : List Char) : Decidable (ControlFree cs) :=
  List.decidableBAll (fun c : Char => 32 ≤ c.toNat) cs

namespace ControlFree

@[simp] lemma nil : ControlFree [] := by simp [ControlFree]

@[simp] lemma cons_iff {c : Char} {cs : List Char} :
    ControlFree (c :: cs) ↔ 32 ≤ c.toNat ∧ ControlFree cs := by
  simp [ControlFree]

@[simp] lemma append_iff {cs ds : List Char} :
    ControlFree (cs ++ ds) ↔ ControlFree cs ∧ ControlFree ds := by
  simp [ControlFree, or_imp, forall_and]

lemma flatMap {α : Type} {f : α → List Char} {xs : List α} (h : ∀ x ∈ xs, ControlFree (f x)) :
    ControlFree (xs.flatMap f) := by
  intro c hc
  obtain ⟨x, hx, hc⟩ := List.mem_flatMap.mp hc
  exact h x hx c hc

lemma replicate_zero (n : Nat) : ControlFree (List.replicate n '0') := by
  intro c hc
  rw [List.eq_of_mem_replicate hc]
  decide

/-- A text without control characters has no line feed. -/
lemma lineFeed_not_mem {cs : List Char} (h : ControlFree cs) : '\n' ∉ cs :=
  fun hmem => absurd (h _ hmem) (by decide)

end ControlFree

/-! ## Digits -/

lemma le_toNat_of_isDigit {c : Char} (h : c.isDigit = true) : 32 ≤ c.toNat := by
  have hdigit := Char.isDigit_iff_toNat.mp h
  have hzero : '0'.toNat = 48 := rfl
  omega

lemma controlFree_toDigits (n : Nat) : ControlFree (Nat.toDigits 10 n) :=
  fun _ hc => le_toNat_of_isDigit (Nat.isDigit_of_mem_toDigits (by decide) (by decide) hc)

namespace Decimal

lemma controlFree_padded {width : Nat} {cs : List Char} (h : ControlFree cs) :
    ControlFree (padded width cs) := by
  rw [padded, ControlFree.append_iff]
  exact ⟨ControlFree.replicate_zero _, h⟩

lemma controlFree_placed (places units : Nat) : ControlFree (placed places units) := by
  have hwhole : ControlFree (digits (units / Nat.pow 10 places)) := controlFree_toDigits _
  rw [placed]
  by_cases hplaces : places = 0
  · simp only [hplaces, if_true]
    exact controlFree_toDigits _
  · simp only [hplaces, if_false, ControlFree.append_iff, ControlFree.cons_iff]
    exact ⟨hwhole, by decide, controlFree_padded (controlFree_toDigits _)⟩

lemma controlFree_signed {negative : Bool} {text : String} (h : ControlFree text.toList) :
    ControlFree (signed negative text).toList := by
  cases negative with
  | false => exact h
  | true =>
      simp only [signed, if_true, String.toList_append, ControlFree.append_iff]
      exact ⟨by decide, h⟩

/-- **A number in fixed places** has no control character, whatever the number. -/
theorem controlFree_fixed (places : Nat) (x : Float) : ControlFree (fixed places x).toList := by
  rw [fixed]
  cases Binary.ofFloat x with
  | nan => exact (by decide : ControlFree "NaN".toList)
  | infinite negative => exact controlFree_signed (by decide)
  | finite negative mantissa exponent =>
      refine controlFree_signed ?_
      rw [String.toList_ofList]
      exact controlFree_placed places _

end Decimal

namespace Json

/-! ## String literals -/

lemma Text.controlFree_hexDigit (n : Nat) : 32 ≤ (Text.hexDigit n).toNat := by
  have hlt : n % 16 < 16 := Nat.mod_lt n (by decide)
  have hall : ∀ d < 16, 32 ≤ (Nat.digitChar d).toNat := by decide
  exact hall _ hlt

/-- An escaped character has no control character: those that need it are escaped. -/
lemma Text.controlFree_escape (c : Char) : ControlFree (escape c) := by
  rw [escape]
  -- the quotation mark, the backslash and the five control characters with a short escape
  iterate 7
    split
    · decide
  split
  · simp only [ControlFree.cons_iff]
    exact ⟨by decide, by decide, by decide, by decide, controlFree_hexDigit _, controlFree_hexDigit _,
      ControlFree.nil⟩
  next h => exact ControlFree.cons_iff.mpr ⟨Nat.le_of_not_lt h, ControlFree.nil⟩

lemma Text.controlFree_quote (cs : List Char) : ControlFree (quote cs) := by
  rw [quote, ControlFree.cons_iff, ControlFree.append_iff]
  exact ⟨by decide, ControlFree.flatMap fun c _ => controlFree_escape c, by decide⟩

/-! ## Values without blanks -/

namespace Value

lemma controlFree_of_isNumeric {c : Char} (h : Token.isNumeric c = true) : 32 ≤ c.toNat := by
  simp only [Token.isNumeric, Bool.or_eq_true, beq_iff_eq] at h
  obtain ((((hdigit | rfl) | rfl) | rfl) | rfl) | rfl := h
  · exact le_toNat_of_isDigit hdigit
  all_goals decide

lemma controlFree_compactItems {items : List Value} (h : ∀ item ∈ items, ControlFree item.compact) :
    ControlFree (compactItems items) := by
  induction items with
  | nil => exact (by decide : ControlFree [']'])
  | cons item items ih =>
      obtain ⟨hitem, hitems⟩ := List.forall_mem_cons.mp h
      simp only [compactItems, ControlFree.cons_iff, ControlFree.append_iff]
      exact ⟨by decide, hitem, ih hitems⟩

lemma controlFree_compactMembers {members : List (Spelled × Value)}
    (h : ∀ member ∈ members, ControlFree member.2.compact) :
    ControlFree (compactMembers members) := by
  induction members with
  | nil => exact (by decide : ControlFree ['\x7d'])
  | cons member members ih =>
      obtain ⟨hvalue, hmembers⟩ := List.forall_mem_cons.mp h
      simp only [compactMembers, spell, ControlFree.cons_iff, ControlFree.append_iff]
      exact ⟨by decide, Text.controlFree_quote _, by decide, hvalue, ih hmembers⟩

/-- **The text of a well-formed value has no control character**, whatever its texts and its keys hold. -/
theorem controlFree_compact {v : Value} (hv : v.WellFormed) : ControlFree v.compact := by
  induction hv with
  | null => exact (by decide : ControlFree nullText)
  | bool b =>
      rw [compact]
      cases b <;> decide
  | number h =>
      rw [compact]
      exact fun c hc => controlFree_of_isNumeric (Token.isNumeric_of_mem_text h c hc)
  | string cs =>
      rw [compact]
      exact Text.controlFree_quote _
  | @array items _ ih =>
      cases items with
      | nil => exact (by decide : ControlFree ['[', ']'])
      | cons item items =>
          obtain ⟨hitem, hitems⟩ := List.forall_mem_cons.mp ih
          simp only [compact, ControlFree.cons_iff, ControlFree.append_iff]
          exact ⟨by decide, hitem, controlFree_compactItems hitems⟩
  | @object members _ _ ih =>
      cases members with
      | nil => exact (by decide : ControlFree ['\x7b', '\x7d'])
      | cons member members =>
          obtain ⟨hvalue, hmembers⟩ := List.forall_mem_cons.mp ih
          simp only [compact, spell, ControlFree.cons_iff, ControlFree.append_iff]
          exact ⟨by decide, Text.controlFree_quote _, by decide, hvalue, controlFree_compactMembers hmembers⟩

end Value

end Json

end OpTiming
