import OpTiming.Proofs.Text.Split

/-!
# The words of a text

A word is a maximal run of characters that are not blank: what stands on either side of it is a blank or the end
of the text.  A name that is only a part of a longer run is therefore no word, however the run goes on.

Everything here follows from one equation, `words_append_cons`: a blank cuts a text in two, and each side has its
own words.

* **`IsWord`** — the words of a text, said without cutting it.
* **`mem_words_iff`** — the words that cutting finds.
-/

namespace OpTiming.Text

variable {text word : List Char}

/-- A **word** of a text: a run of characters that are not blank, which a blank or the end of the text stops on
either side. -/
structure IsWord (text word : List Char) : Prop where
  ne_nil : word ≠ []
  blank_free : ∀ c ∈ word, isBlank c = false
  maximal : ∃ before after, text = before ++ word ++ after ∧
    (∀ c, before.getLast? = some c → isBlank c = true) ∧ ∀ c, after.head? = some c → isBlank c = true

/-! ## Cutting at blanks -/

/-- **A blank stands between the words before it and those behind it.** -/
lemma words_append_cons {c : Char} (hc : isBlank c = true) (before after : List Char) :
    words (before ++ c :: after) = words before ++ words after := by
  rw [words, split_append_cons hc, List.filter_append]
  rfl

lemma mem_words_of_blank_free (h : ∀ c ∈ text, isBlank c = false) :
    word ∈ words text ↔ word = text ∧ word ≠ [] := by
  rw [words, split_of_free h, List.mem_filter, List.mem_singleton]
  simp

/-! ## Words are maximal runs -/

/-- A word stays one if a blank, and anything before the blank, is put before the text. -/
lemma IsWord.append_cons (h : IsWord text word) {c : Char} (hc : isBlank c = true) (before : List Char) :
    IsWord (before ++ c :: text) word := by
  obtain ⟨hne, hfree, front, after, rfl, hfront, hafter⟩ := h
  refine ⟨hne, hfree, before ++ c :: front, after, by simp, ?_, hafter⟩
  intro last hlast
  cases front with
  | nil =>
    obtain rfl : c = last := by simpa using hlast
    exact hc
  | cons next front => exact hfront last (by simpa using hlast)

lemma isWord_of_mem_words (h : word ∈ words text) : IsWord text word := by
  induction text using mark_induction isBlank with
  | free run hfree =>
    obtain ⟨rfl, hne⟩ := (mem_words_of_blank_free hfree).mp h
    exact ⟨hne, hfree, [], [], by simp, by simp, by simp⟩
  | marked run c rest hfree hc ih =>
    rw [words_append_cons hc, List.mem_append] at h
    obtain hrun | hrest := h
    · obtain ⟨rfl, hne⟩ := (mem_words_of_blank_free hfree).mp hrun
      exact ⟨hne, hfree, [], c :: rest, rfl, by simp, by simpa using hc⟩
    · exact (ih hrest).append_cons hc run

lemma IsWord.mem_words (h : IsWord text word) : word ∈ words text := by
  obtain ⟨hne, hfree, before, after, rfl, hbefore, hafter⟩ := h
  have hself : word ∈ words word := (mem_words_of_blank_free hfree).mpr ⟨rfl, hne⟩
  have hword : word ∈ words (word ++ after) := by
    cases after with
    | nil => rwa [List.append_nil]
    | cons c after =>
      rw [words_append_cons (hafter c rfl)]
      exact List.mem_append_left _ hself
  obtain rfl | ⟨front, c, rfl⟩ := List.eq_nil_or_concat before
  · exact hword
  · have hc : isBlank c = true := hbefore c (by simp)
    have hcut : front.concat c ++ word ++ after = front ++ c :: (word ++ after) := by simp
    rw [hcut, words_append_cons hc]
    exact List.mem_append_right _ hword

/-- **The words that cutting finds** are the maximal runs without blanks. -/
theorem mem_words_iff : word ∈ words text ↔ IsWord text word := ⟨isWord_of_mem_words, IsWord.mem_words⟩

end OpTiming.Text
