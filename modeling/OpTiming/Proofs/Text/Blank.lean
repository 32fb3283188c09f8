import Mathlib.Data.List.DropRight
import OpTiming.Text.Blank

/-!
# Blanks around a text

Trimming cuts a text into blanks, a text that neither starts nor ends with one, and blanks again, and there
is only one way to do that.

* **`Bare`** — a text without blanks at its ends.  **`Padded`** — a text with blanks, or nothing, around it.
* **`trim_eq_iff`** — trimming finds the bare text that a text is padded from.
-/

namespace OpTiming.Text

lemma trim_eq_rdropWhile (cs : List Char) :
    trim cs = (cs.dropWhile isBlank).rdropWhile isBlank := rfl

/-- What is taken from the right end leaves the left end alone. -/
lemma dropWhile_trim (cs : List Char) : (trim cs).dropWhile isBlank = trim cs := by
  have hprefix : trim cs <+: cs.dropWhile isBlank := List.rdropWhile_prefix isBlank _
  cases htrim : trim cs with
  | nil => rfl
  | cons c rest =>
    rw [htrim] at hprefix
    obtain ⟨tail, hdrop⟩ := hprefix
    have hhead := List.head?_dropWhile_not isBlank cs
    rw [← hdrop, List.cons_append, List.head?_cons] at hhead
    exact List.dropWhile_cons_of_neg (by simp [hhead])

/-! ## Padding -/

/-- A text of nothing but blanks. -/
def Blanks (cs : List Char) : Prop := ∀ c ∈ cs, isBlank c = true

instance (cs : List Char) : Decidable (Blanks cs) := List.decidableBAll _ cs

/-- A text that neither starts nor ends with a blank. -/
def Bare (cs : List Char) : Prop :=
  (∀ c, cs.head? = some c → isBlank c = false) ∧ ∀ c, cs.getLast? = some c → isBlank c = false

/-- A text that holds another one with blanks, or nothing, on either side of it. -/
def Padded (body text : List Char) : Prop :=
  ∃ before after, Blanks before ∧ Blanks after ∧ text = before ++ body ++ after

variable {body text : List Char}

lemma isBlank_of_isDigit {c : Char} (h : c.isDigit = true) : isBlank c = false := by
  have hdigit := Char.isDigit_iff_toNat.mp h
  have hzero : '0'.toNat = 48 := rfl
  have hnine : '9'.toNat = 57 := rfl
  simp only [isBlank, Bool.or_eq_false_iff, Bool.and_eq_false_iff, beq_eq_false_iff_ne,
    decide_eq_false_iff_not]
  omega

lemma bare_of_blank_free (h : ∀ c ∈ body, isBlank c = false) : Bare body :=
  ⟨fun c hc => h c (List.mem_of_head? hc), fun c hc => h c (List.mem_of_getLast? hc)⟩

lemma dropWhile_eq_self_of_head? (h : ∀ c, body.head? = some c → isBlank c = false) :
    body.dropWhile isBlank = body := by
  cases body with
  | nil => rfl
  | cons c cs => rw [List.dropWhile_cons_of_neg (by simp [h c rfl])]

lemma Bare.trim_eq (h : Bare body) : trim body = body := by
  have hreverse : body.reverse.dropWhile isBlank = body.reverse :=
    dropWhile_eq_self_of_head? (by simpa using h.2)
  rw [trim, dropWhile_eq_self_of_head? h.1, hreverse, List.reverse_reverse]

lemma bare_trim (text : List Char) : Bare (trim text) := by
  constructor
  · intro c hc
    have hhead := List.head?_dropWhile_not isBlank (trim text)
    rw [dropWhile_trim, hc] at hhead
    simpa using hhead
  · intro c hc
    have hreverse : (trim text).reverse = (text.dropWhile isBlank).reverse.dropWhile isBlank :=
      List.reverse_reverse _
    have hhead := List.head?_dropWhile_not isBlank (text.dropWhile isBlank).reverse
    rw [← hreverse, List.head?_reverse, hc] at hhead
    simpa using hhead

/-- What trimming takes away are blanks. -/
lemma padded_trim (text : List Char) : Padded (trim text) text := by
  refine ⟨text.takeWhile isBlank, (text.dropWhile isBlank).rtakeWhile isBlank, ?_, ?_, ?_⟩
  · exact fun c hc => List.mem_takeWhile_imp hc
  · exact fun c hc => List.mem_rtakeWhile_imp hc
  · rw [List.append_assoc, trim_eq_rdropWhile, List.rdropWhile_append_rtakeWhile,
      List.takeWhile_append_dropWhile]

/-- Blanks around a text are trimmed away together with those at its own ends. -/
lemma Padded.trim_eq (h : Padded body text) : trim text = trim body := by
  obtain ⟨before, after, hbefore, hafter, rfl⟩ := h
  have hreverse : ∀ c ∈ after.reverse, isBlank c = true := by simpa [Blanks] using hafter
  rw [trim, trim, List.append_assoc, List.dropWhile_append_of_pos hbefore, List.dropWhile_append]
  cases hbody : body.dropWhile isBlank with
  | nil => simp [List.dropWhile_eq_nil_iff.mpr hafter]
  | cons c rest =>
    rw [List.isEmpty_cons, if_neg Bool.false_ne_true, List.reverse_append,
      List.dropWhile_append_of_pos hreverse]

/-- **Trimming finds the bare text** that a text is padded from; there is exactly one. -/
theorem trim_eq_iff : trim text = body ↔ Padded body text ∧ Bare body := by
  constructor
  · rintro rfl
    exact ⟨padded_trim text, bare_trim text⟩
  · rintro ⟨hpadded, hbare⟩
    rw [hpadded.trim_eq, hbare.trim_eq]

end OpTiming.Text
