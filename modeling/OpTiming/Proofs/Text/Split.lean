import Mathlib.Tactic.Common
import OpTiming.Text.Blank

/-!
# Cutting a text at a mark

The stretches between the marks of a text are what has to be joined by the mark to give the text again.  They
are the only stretches of which that is true, as none of them holds the mark itself.

* **`mark_induction`** — a text is taken apart at its first mark.
* **`split_eq_iff`** — the stretches of a text, said without the cut.
-/

namespace OpTiming.Text

lemma split_eq_splitOnP (p : Char → Bool) (cs : List Char) : split p cs = cs.splitOnP p := by
  induction cs with
  | nil => rw [split, List.splitOnP_nil]
  | cons c cs ih =>
    obtain ⟨first, rest, hrest⟩ := List.exists_cons_of_ne_nil (List.splitOnP_ne_nil p cs)
    rw [split, List.splitOnP_cons_eq_if_modifyHead, ih, hrest]
    rfl

lemma split_eq_splitOn (mark : Char) (cs : List Char) : split (· == mark) cs = cs.splitOn mark :=
  split_eq_splitOnP _ cs

/-- **A mark cuts a text in two**, and each side is cut for itself. -/
lemma split_append_cons {p : Char → Bool} {mark : Char} (hmark : p mark = true) (before after : List Char) :
    split p (before ++ mark :: after) = split p before ++ split p after := by
  rw [split_eq_splitOnP, split_eq_splitOnP, split_eq_splitOnP, List.splitOnP_append_cons before after hmark]

lemma split_of_free {p : Char → Bool} {cs : List Char} (h : ∀ c ∈ cs, p c = false) : split p cs = [cs] := by
  rw [split_eq_splitOnP, List.splitOnP_eq_singleton h]

/-- **Induction from mark to mark.**  A text has no mark, or it starts with a stretch that has none and goes on
behind the first mark. -/
@[elab_as_elim]
lemma mark_induction (p : Char → Bool) {motive : List Char → Prop}
    (free : ∀ stretch, (∀ c ∈ stretch, p c = false) → motive stretch)
    (marked : ∀ stretch mark rest, (∀ c ∈ stretch, p c = false) → p mark = true → motive rest →
      motive (stretch ++ mark :: rest)) (cs : List Char) : motive cs := by
  -- a text is read from the left, with a stretch that has not ended yet before what is left of it
  suffices hstretch : ∀ stretch, (∀ c ∈ stretch, p c = false) → motive (stretch ++ cs) from
    hstretch [] (List.forall_mem_nil _)
  induction cs with
  | nil =>
    intro stretch hfree
    rw [List.append_nil]
    exact free stretch hfree
  | cons c cs ih =>
    intro stretch hfree
    cases hc : p c with
    | true => exact marked stretch c cs hfree hc (ih [] (List.forall_mem_nil _))
    | false =>
      rw [List.append_cons]
      exact ih _ (List.forall_mem_append.mpr ⟨hfree, List.forall_mem_singleton.mpr hc⟩)

/-- No stretch holds a character of the class that the text is cut at. -/
lemma eq_false_of_mem_split {p : Char → Bool} {cs piece : List Char} (h : piece ∈ split p cs) :
    ∀ c ∈ piece, p c = false := by
  induction cs using mark_induction p with
  | free stretch hfree =>
    rw [split_of_free hfree, List.mem_singleton] at h
    rwa [h]
  | marked stretch mark rest hfree hmark ih =>
    rw [split_append_cons hmark, split_of_free hfree, List.singleton_append] at h
    obtain rfl | hpiece := List.mem_cons.mp h
    · exact hfree
    · exact ih hpiece

/-- **The stretches of a text** are the ones without the mark that the mark joins to the text. -/
theorem split_eq_iff {mark : Char} {cs : List Char} {pieces : List (List Char)} :
    split (· == mark) cs = pieces ↔
      pieces ≠ [] ∧ (∀ piece ∈ pieces, mark ∉ piece) ∧ [mark].intercalate pieces = cs := by
  constructor
  · rintro rfl
    refine ⟨?_, fun piece hpiece hmark => ?_, ?_⟩
    · rw [split_eq_splitOn]
      exact List.splitOnP_ne_nil _ cs
    · simpa using eq_false_of_mem_split hpiece mark hmark
    · rw [split_eq_splitOn, List.intercalate_splitOn]
  · rintro ⟨hne, hfree, rfl⟩
    rw [split_eq_splitOn, List.splitOn_intercalate mark hfree hne]

lemma mem_intercalate {mark c : Char} {pieces : List (List Char)} (h : c ∈ [mark].intercalate pieces) :
    c = mark ∨ ∃ piece ∈ pieces, c ∈ piece := by
  induction pieces with
  | nil => simp [List.intercalate] at h
  | cons piece pieces ih =>
    cases pieces with
    | nil => exact .inr ⟨piece, List.mem_cons_self .., by simpa [List.intercalate] using h⟩
    | cons next pieces =>
      rw [List.intercalate_cons_cons, List.mem_append, List.mem_append, List.mem_singleton] at h
      obtain (hpiece | hmark) | hrest := h
      · exact .inr ⟨piece, List.mem_cons_self .., hpiece⟩
      · exact .inl hmark
      · refine (ih hrest).imp_right ?_
        rintro ⟨other, hother, hc⟩
        exact ⟨other, List.mem_cons_of_mem _ hother, hc⟩

end OpTiming.Text
