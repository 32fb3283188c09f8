import OpTiming.Preflight.CpuTimes
import OpTiming.Proofs.Fault
import OpTiming.Proofs.Numeral
import OpTiming.Proofs.Pairwise

/-!
# The times of a processor

Reading the times of a processor gives them, finds that there are none, or meets a fault.  Which of the three
it is depends on one line of the text: the first one that starts with the label of the processor.  There are
no times if that line is missing, too short or not all numbers.  The fault is met where the first eight numbers
add up to more than 64 bits can hold; idle and waiting time alone are a part of that sum and decide nothing.

* **`IsLine`**, **`IsCounts`** — the line of a processor and the numbers on it, said of the text.
* **`Tallies`** — the times that the numbers of a line amount to.
* **`Overflows`** — the numbers of the line do not add up.  **`parse?_eq_error_iff`** — only then there is a
  fault.
* **`parse?_outcome`** — all three outcomes.
-/

namespace OpTiming.Preflight.CpuTimes

open Text.Numeral (Denotes)

/-- The counts of a line cannot be added up in 64 bits. -/
def CountsOverflow (counts : List UInt64) : Prop := 4 ≤ counts.length ∧ 2 ^ 64 ≤ exactSum (counts.take 8)

/-- The counts that a text gives for a processor, if it has a line for it that is all numbers. -/
def counts? (text : String) (cpu : UInt64) : Option (List UInt64) :=
  (wordsAfter? (label cpu) text.toList).bind fun words => words.mapM Text.Numeral.readUInt64?

/-- A text gives counts for a processor that cannot be added up in 64 bits. -/
def Overflows (text : String) (cpu : UInt64) : Prop :=
  ∃ counts, counts? text cpu = some counts ∧ CountsOverflow counts

variable {text : String} {cpu : UInt64} {words : List (List Char)} {counts : List UInt64}

/-! ## The line of a processor -/

/-- The label of a processor is `cpu` and its number, so neither another processor nor the line of all
processors together has it. -/
lemma label_names (cpu : UInt64) :
    label cpu = "cpu".toList ++ Nat.toDigits 10 cpu.toNat ∧ label cpu ≠ "cpu".toList ∧
      ∀ cpu', label cpu' = label cpu ↔ cpu' = cpu := by
  have hlabel : ∀ cpu, label cpu = "cpu".toList ++ Nat.toDigits 10 cpu.toNat := by
    intro cpu
    rw [label, Text.Numeral.toList_toString]
    rfl
  refine ⟨hlabel cpu, ?_, fun cpu' => ⟨fun h => ?_, fun h => h ▸ rfl⟩⟩
  · rw [hlabel, ne_eq, List.append_right_eq_self]
    exact Nat.toDigits_ne_nil
  · rw [hlabel, hlabel] at h
    exact UInt64.toNat_inj.mp (Text.Numeral.toDigits_injective (List.append_cancel_left h))

/-- The line of a processor is the first one whose first word is its label; the other words follow on it. -/
def IsLine (text : String) (cpu : UInt64) (words : List (List Char)) : Prop :=
  ∃ before line after, Text.lines text.toList = before ++ line :: after ∧
    Text.words line = label cpu :: words ∧
    ∀ earlier ∈ before, (Text.words earlier).head? ≠ some (label cpu)

lemma wordsAfter?_eq_some_iff :
    wordsAfter? (label cpu) text.toList = some words ↔ IsLine text cpu words := by
  rw [wordsAfter?, List.findSome?_map, List.findSome?_eq_some_iff]
  refine exists_congr fun before => exists_congr fun line => exists_congr fun after =>
    and_congr_right fun _ => and_congr ?_ (forall₂_congr fun earlier _ => ?_)
  · rw [Function.comp_apply]
    cases Text.words line with
    | nil => simp
    | cons first rest => simp
  · rw [Function.comp_apply]
    cases Text.words earlier with
    | nil => simp
    | cons first rest => simp

/-- The counts on the line of a processor: at least four words follow the label, and all are numerals. -/
def IsCounts (text : String) (cpu : UInt64) (counts : List UInt64) : Prop :=
  ∃ words, IsLine text cpu words ∧ 4 ≤ words.length ∧
    List.Forall₂ (fun word (count : UInt64) => Denotes word count.toNat) words counts

lemma mapM_readUInt64?_eq_some_iff :
    words.mapM Text.Numeral.readUInt64? = some counts ↔
      List.Forall₂ (fun word (count : UInt64) => Denotes word count.toNat) words counts := by
  simp only [mapM_eq_some_iff, Text.Numeral.readUInt64?_eq_some_iff]

lemma isCounts_iff : IsCounts text cpu counts ↔ counts? text cpu = some counts ∧ 4 ≤ counts.length := by
  simp only [IsCounts, counts?, Option.bind_eq_some_iff, wordsAfter?_eq_some_iff,
    mapM_readUInt64?_eq_some_iff]
  constructor
  · rintro ⟨words, hline, hlength, hcounts⟩
    exact ⟨⟨words, hline, hcounts⟩, hcounts.length_eq ▸ hlength⟩
  · rintro ⟨⟨words, hline, hcounts⟩, hlength⟩
    exact ⟨words, hline, hcounts.length_eq ▸ hlength, hcounts⟩

lemma overflows_iff :
    Overflows text cpu ↔ ∃ counts, IsCounts text cpu counts ∧ 2 ^ 64 ≤ exactSum (counts.take 8) := by
  simp only [Overflows, CountsOverflow, isCounts_iff, and_assoc]

lemma IsLine.unique {words' : List (List Char)} (h : IsLine text cpu words) (h' : IsLine text cpu words') :
    words = words' :=
  Option.some.inj ((wordsAfter?_eq_some_iff.mpr h).symm.trans (wordsAfter?_eq_some_iff.mpr h'))

/-- **There are no counts** if the line is missing or too short, or if some word of it is no numeral. -/
lemma no_counts_iff : (¬ ∃ counts, IsCounts text cpu counts) ↔
    (¬ ∃ words, IsLine text cpu words) ∨ ∃ words, IsLine text cpu words ∧
      (words.length < 4 ∨ ∃ word ∈ words, ∀ count : UInt64, ¬ Denotes word count.toNat) := by
  simp only [← Text.Numeral.readUInt64?_eq_none_iff, ← mapM_eq_none_iff]
  constructor
  · intro hnone
    by_cases hline : ∃ words, IsLine text cpu words
    · obtain ⟨words, hline⟩ := hline
      refine .inr ⟨words, hline, ?_⟩
      by_contra hgood
      rw [not_or, Nat.not_lt] at hgood
      obtain ⟨counts, hcounts⟩ := Option.ne_none_iff_exists'.mp hgood.2
      exact hnone ⟨counts, words, hline, hgood.1, mapM_readUInt64?_eq_some_iff.mp hcounts⟩
    · exact .inl hline
  · rintro (hmissing | ⟨words, hline, hbad⟩) ⟨counts, words', hline', hlength, hcounts⟩
    · exact hmissing ⟨words', hline'⟩
    · obtain rfl := hline.unique hline'
      rcases hbad with hshort | hnumeral
      · omega
      · rw [mapM_readUInt64?_eq_some_iff.mpr hcounts] at hnumeral
        cases hnumeral

/-! ## The numbers of a line -/

/-- The times that the counts of a line amount to. -/
structure Tallies (counts : List UInt64) (times : CpuTimes) : Prop where
  total : times.total.toNat = exactSum (counts.take 8)
  /-- All counts but the fourth and the fifth are busy time. -/
  busy : times.busy.toNat = exactSum (counts.take 3 ++ (counts.take 8).drop 5)
  /-- The fourth and the fifth are what is missing from the total, so they fit by themselves, and taking them
  away leaves what it should. -/
  idle : times.busy.toNat + exactSum ((counts.drop 3).take 2) = times.total.toNat

lemma Tallies.unique {times times' : CpuTimes} (h : Tallies counts times) (h' : Tallies counts times') :
    times = times' := by
  obtain ⟨busy, total⟩ := times
  obtain ⟨busy', total'⟩ := times'
  obtain rfl : busy = busy' := UInt64.toNat_inj.mp (h.busy.trans h'.busy.symm)
  obtain rfl : total = total' := UInt64.toNat_inj.mp (h.total.trans h'.total.symm)
  rfl

/-- Waiting time counts as none where it is missing. -/
lemma exactSum_take_one (rest : List UInt64) : exactSum (rest.take 1) = (rest.headD 0).toNat := by
  cases rest with
  | nil => rfl
  | cons waiting rest => simp

/-- Of the last four counts the first one is waiting time. -/
lemma exactSum_take_four (rest : List UInt64) :
    exactSum (rest.take 4) = (rest.headD 0).toNat + exactSum ((rest.take 4).drop 1) := by
  cases rest with
  | nil => rfl
  | cons waiting rest => simp

lemma ofCounts?_of_short (h : counts.length < 4) : ofCounts? counts = .ok none := by
  obtain _ | ⟨user, _ | ⟨nice, _ | ⟨system, _ | ⟨idle, rest⟩⟩⟩⟩ := counts
  · rfl
  · rfl
  · rfl
  · rfl
  · simp only [List.length_cons] at h
    omega

lemma ofCounts?_of_overflow (h : CountsOverflow counts) : ofCounts? counts = .error .addOverflow := by
  obtain ⟨hlength, hsum⟩ := h
  obtain _ | ⟨user, _ | ⟨nice, _ | ⟨system, _ | ⟨idle, rest⟩⟩⟩⟩ := counts
  · cases hlength
  · simp at hlength
  · simp at hlength
  · simp at hlength
  · simp only [List.take_succ_cons] at hsum
    by_cases hidle : idle.toNat + (rest.headD 0).toNat < 2 ^ 64
    · obtain ⟨idleTotal, hidleTotal, -⟩ := checkedAdd_of_lt hidle
      rw [ofCounts?, hidleTotal, ok_bind, checkedSum_of_le hsum, error_bind]
    · rw [ofCounts?, checkedAdd_of_le (Nat.not_lt.mp hidle), error_bind]

/-- **Counts that add up are tallied.** -/
lemma ofCounts?_of_lt (hlength : 4 ≤ counts.length) (hsum : exactSum (counts.take 8) < 2 ^ 64) :
    ∃ times, ofCounts? counts = .ok (some times) ∧ Tallies counts times := by
  obtain _ | ⟨user, _ | ⟨nice, _ | ⟨system, _ | ⟨idle, rest⟩⟩⟩⟩ := counts
  · cases hlength
  · simp at hlength
  · simp at hlength
  · simp at hlength
  · simp only [List.take_succ_cons] at hsum
    have hvalue : exactSum (user :: nice :: system :: idle :: rest.take 4) =
        user.toNat + nice.toNat + system.toNat + (idle.toNat + (rest.headD 0).toNat) +
          exactSum ((rest.take 4).drop 1) := by
      simp only [exactSum_cons, exactSum_take_four rest]
      omega
    -- the idle time is two of the eight counts, so it fits where their sum does
    obtain ⟨idleTotal, hidleTotal, hidleValue⟩ :=
      checkedAdd_of_lt (show idle.toNat + (rest.headD 0).toNat < 2 ^ 64 by omega)
    obtain ⟨total, htotal, htotalValue⟩ := checkedSum_of_lt hsum
    have hbusy : (saturatingSub total idleTotal).toNat =
        user.toNat + nice.toNat + system.toNat + exactSum ((rest.take 4).drop 1) := by
      rw [toNat_saturatingSub]
      omega
    refine ⟨⟨saturatingSub total idleTotal, total⟩, ?_, htotalValue, ?_, ?_⟩
    · rw [ofCounts?, hidleTotal, ok_bind, htotal, ok_bind]
      rfl
    · rw [hbusy]
      simp [Nat.add_assoc]
    · have hidle : exactSum (((user :: nice :: system :: idle :: rest).drop 3).take 2) =
          idle.toNat + (rest.headD 0).toNat := by
        rw [← exactSum_take_one, ← exactSum_cons]
        rfl
      rw [hidle, hbusy, htotalValue, hvalue]
      omega

/-! ## The text -/

lemma parse?_of_isCounts (h : IsCounts text cpu counts) : parse? text cpu = ofCounts? counts := by
  rw [parse?, ← counts?, (isCounts_iff.mp h).1]

lemma parse?_of_no_counts (h : ¬ ∃ counts, IsCounts text cpu counts) : parse? text cpu = .ok none := by
  rw [parse?, ← counts?]
  rcases hcounts : counts? text cpu with _ | counts
  · rfl
  · refine ofCounts?_of_short (Nat.not_le.mp fun hlength => h ⟨counts, ?_⟩)
    exact isCounts_iff.mpr ⟨hcounts, hlength⟩

/-- **The three ways to end.** -/
lemma parse?_cases (text : String) (cpu : UInt64) :
    (parse? text cpu = .ok none ∧ ¬ ∃ counts, IsCounts text cpu counts) ∨
      (∃ counts, parse? text cpu = .error .addOverflow ∧ IsCounts text cpu counts ∧
        2 ^ 64 ≤ exactSum (counts.take 8)) ∨
      ∃ counts times, parse? text cpu = .ok (some times) ∧ IsCounts text cpu counts ∧
        exactSum (counts.take 8) < 2 ^ 64 ∧ Tallies counts times := by
  by_cases hnone : ∃ counts, IsCounts text cpu counts
  · obtain ⟨counts, hcounts⟩ := hnone
    have hlength := (isCounts_iff.mp hcounts).2
    rw [parse?_of_isCounts hcounts]
    by_cases hsum : exactSum (counts.take 8) < 2 ^ 64
    · obtain ⟨times, htimes, htallies⟩ := ofCounts?_of_lt hlength hsum
      exact .inr (.inr ⟨counts, times, htimes, hcounts, hsum, htallies⟩)
    · have hle := Nat.not_lt.mp hsum
      exact .inr (.inl ⟨counts, ofCounts?_of_overflow ⟨hlength, hle⟩, hcounts, hle⟩)
  · exact .inl ⟨parse?_of_no_counts hnone, hnone⟩

lemma parse?_eq_none_iff :
    parse? text cpu = .ok none ↔ ¬ ∃ counts, IsCounts text cpu counts := by
  refine ⟨fun hparse => ?_, parse?_of_no_counts⟩
  obtain ⟨-, hnone⟩ | ⟨counts, herror, -⟩ | ⟨counts, times, hsome, -⟩ := parse?_cases text cpu
  · exact hnone
  · rw [herror] at hparse
    cases hparse
  · rw [hsome] at hparse
    cases hparse

/-- **Only counts that do not add up make a fault.** -/
lemma parse?_eq_error_iff {fault : Fault} :
    parse? text cpu = .error fault ↔ fault = .addOverflow ∧ Overflows text cpu := by
  rw [overflows_iff]
  constructor
  · intro hparse
    obtain ⟨hnone, -⟩ | ⟨counts, herror, hcounts, hle⟩ | ⟨counts, times, hsome, -⟩ := parse?_cases text cpu
    · rw [hnone] at hparse
      cases hparse
    · rw [herror] at hparse
      exact ⟨(Except.error.inj hparse).symm, counts, hcounts, hle⟩
    · rw [hsome] at hparse
      cases hparse
  · rintro ⟨rfl, counts, hcounts, hle⟩
    rw [parse?_of_isCounts hcounts]
    exact ofCounts?_of_overflow ⟨(isCounts_iff.mp hcounts).2, hle⟩

lemma parse?_eq_some_iff {times : CpuTimes} : parse? text cpu = .ok (some times) ↔
    ∃ counts, IsCounts text cpu counts ∧ exactSum (counts.take 8) < 2 ^ 64 ∧ Tallies counts times := by
  constructor
  · intro hparse
    obtain ⟨hnone, -⟩ | ⟨counts, herror, -⟩ | ⟨counts, times', hsome, hrest⟩ := parse?_cases text cpu
    · rw [hnone] at hparse
      cases hparse
    · rw [herror] at hparse
      cases hparse
    · rw [hsome] at hparse
      cases hparse
      exact ⟨counts, hrest⟩
  · rintro ⟨counts, hcounts, hsum, htallies⟩
    obtain ⟨times', htimes, htallies'⟩ := ofCounts?_of_lt (isCounts_iff.mp hcounts).2 hsum
    rw [parse?_of_isCounts hcounts, htimes, htallies'.unique htallies]

lemma parse?_of_overflows (h : Overflows text cpu) : parse? text cpu = .error .addOverflow :=
  parse?_eq_error_iff.mpr ⟨rfl, h⟩

lemma parse?_of_not_overflows (h : ¬ Overflows text cpu) : ∃ times, parse? text cpu = .ok times := by
  rcases hparse : parse? text cpu with fault | times
  · exact absurd (parse?_eq_error_iff.mp hparse).2 h
  · exact ⟨times, rfl⟩

/-- **The times of a processor.**  They are read off the first line that starts with its label, and no other
processor has that label.  There are none iff that line is missing, is too short or is not all numerals.
Otherwise the first eight numbers decide: if they do not add up, reading meets a fault, and else it gives their
sum, and their sum without idle and waiting time. -/
theorem parse?_outcome (text : String) (cpu : UInt64) :
    (label cpu = "cpu".toList ++ Nat.toDigits 10 cpu.toNat ∧ label cpu ≠ "cpu".toList ∧
        ∀ cpu', label cpu' = label cpu ↔ cpu' = cpu) ∧
      (parse? text cpu = .ok none ↔ (¬ ∃ words, IsLine text cpu words) ∨
        ∃ words, IsLine text cpu words ∧ (words.length < 4 ∨
          ∃ word ∈ words, ∀ count : UInt64, ¬ Denotes word count.toNat)) ∧
      (∀ fault, parse? text cpu = .error fault ↔ fault = .addOverflow ∧
        ∃ counts, IsCounts text cpu counts ∧ 2 ^ 64 ≤ exactSum (counts.take 8)) ∧
      ∀ times, parse? text cpu = .ok (some times) ↔
        ∃ counts, IsCounts text cpu counts ∧ exactSum (counts.take 8) < 2 ^ 64 ∧ Tallies counts times := by
  refine ⟨label_names cpu, ?_, fun fault => ?_, fun times => parse?_eq_some_iff⟩
  · rw [parse?_eq_none_iff, no_counts_iff]
  · rw [parse?_eq_error_iff, overflows_iff]

/-- The line of all processors and that of the tenth one are passed over; a carriage return is no part of a
number, and a ninth number is read but not added. -/
theorem parse?_outcome_of_sample :
    let text := "cpu 9 9 9 9\ncpu10 8 8 8 8\ncpu1 +60 0 30 500 5 0 0 0 7\r\n"
    IsLine text 1 (["+60", "0", "30", "500", "5", "0", "0", "0", "7"].map String.toList) ∧
      parse? text 1 = .ok (some ⟨90, 595⟩) ∧ parse? text 0 = .ok none := by
  intro text
  have hline : IsLine text 1 (["+60", "0", "30", "500", "5", "0", "0", "0", "7"].map String.toList) :=
    ⟨["cpu 9 9 9 9".toList, "cpu10 8 8 8 8".toList], "cpu1 +60 0 30 500 5 0 0 0 7".toList, [],
      by decide +kernel, by decide +kernel, by decide +kernel⟩
  have hcounts : IsCounts text 1 [60, 0, 30, 500, 5, 0, 0, 0, 7] :=
    ⟨_, hline, by decide, mapM_readUInt64?_eq_some_iff.mp (by decide +kernel)⟩
  have hmissing : ¬ ∃ words, IsLine text 0 words := by
    have hnowhere : wordsAfter? (label 0) text.toList = none := by decide +kernel
    rintro ⟨words, hwords⟩
    rw [← wordsAfter?_eq_some_iff, hnowhere] at hwords
    cases hwords
  obtain ⟨-, -, -, hsome⟩ := parse?_outcome text 1
  obtain ⟨-, hnone, -⟩ := parse?_outcome text 0
  exact ⟨hline, (hsome _).mpr ⟨_, hcounts, by decide, ⟨rfl, rfl, rfl⟩⟩, hnone.mpr (.inl hmissing)⟩

end OpTiming.Preflight.CpuTimes
