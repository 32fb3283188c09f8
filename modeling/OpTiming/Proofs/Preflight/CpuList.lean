import OpTiming.Preflight.CpuList
import OpTiming.Proofs.Numeral
import OpTiming.Proofs.Pairwise
import OpTiming.Proofs.Text.Blank
import OpTiming.Proofs.Text.Split

/-!
# The grammar of processor lists

A list is read part by part, and one part that is neither a number nor a range spoils it.  The dash of a range
cannot be mistaken, as a number holds no dash; so every part stands for at most one block of processors.

* **`IsParted`** — the parts of a list, said of the text.  **`Spans`** — what one part stands for.
* **`mem_span`**, **`pairwise_span`** — the processors of a range are those between its ends, in ascending
  order.
* **`parse?_eq_some_iff`** — which texts are lists, and of what.
* **`render`** — the way in which the system writes a list; **`parse?_render`** reads it back.
* **`siblingOf?_eq_some_iff`** — which of the listed processors is taken for a sibling.
-/

namespace OpTiming.Preflight.CpuList

open Text (Bare Blanks Padded)
open Text.Numeral (Denotes)

variable {text : String} {part : List Char} {block cpus : List UInt64} {first last cpu core : UInt64}

/-! ## Ranges -/

/-- **A range** holds the processors between its ends, both included. -/
lemma mem_span : cpu ∈ span first last ↔ first ≤ cpu ∧ cpu ≤ last := by
  have hlast : last.toNat < UInt64.size := last.toNat_lt
  simp only [span, List.mem_map, List.mem_range'_1, UInt64.le_iff_toNat_le]
  constructor
  · rintro ⟨n, ⟨hlow, hhigh⟩, rfl⟩
    rw [UInt64.toNat_ofNat_of_lt' (by omega)]
    omega
  · rintro ⟨hlow, hhigh⟩
    exact ⟨cpu.toNat, by omega, UInt64.ofNat_toNat⟩

lemma pairwise_span : (span first last).Pairwise (· < ·) := by
  have hlast : last.toNat < UInt64.size := last.toNat_lt
  rw [span, List.pairwise_map]
  refine List.Pairwise.imp_of_mem (fun {m n} hm hn hlt => ?_) (List.pairwise_lt_range' 1)
  rw [List.mem_range'_1] at hm hn
  rw [UInt64.lt_iff_toNat_lt, UInt64.toNat_ofNat_of_lt' (by omega), UInt64.toNat_ofNat_of_lt' (by omega)]
  exact hlt

lemma span_of_lt (h : last < first) : span first last = [] := by
  rw [List.eq_nil_iff_forall_not_mem]
  intro cpu hcpu
  obtain ⟨hlow, hhigh⟩ := mem_span.mp hcpu
  exact UInt64.not_le.mpr h (UInt64.le_trans hlow hhigh)

/-! ## Parts -/

lemma splitDash_eq_none_iff : splitDash part = none ↔ '-' ∉ part := by
  fun_induction splitDash part with
  | case1 => simp
  | case2 after => simp
  | case3 c cs hc ih =>
    rw [Option.map_eq_none_iff, ih, List.mem_cons, not_or]
    exact ⟨fun h => ⟨fun heq => hc heq.symm, h⟩, And.right⟩

lemma splitDash_append {before after : List Char} (h : '-' ∉ before) :
    splitDash (before ++ '-' :: after) = some (before, after) := by
  induction before with
  | nil => rfl
  | cons c before ih =>
    rw [List.mem_cons, not_or] at h
    rw [List.cons_append, splitDash, ih h.2, Option.map_some]
    exact fun heq => h.1 heq.symm

lemma eq_append_of_splitDash {before after : List Char} (h : splitDash part = some (before, after)) :
    part = before ++ '-' :: after := by
  fun_induction splitDash part generalizing before with
  | case1 => cases h
  | case2 rest => cases h; rfl
  | case3 c cs hc ih =>
    obtain ⟨⟨before', after'⟩, hrest, heq⟩ := Option.map_eq_some_iff.mp h
    cases heq
    rw [ih hrest, List.cons_append]

/-- What a part of a list stands for: a number for one processor, and two numbers with a dash between them for
a range. -/
inductive Spans : List Char → List UInt64 → Prop
  | one {part : List Char} {cpu : UInt64} (hpart : Denotes part cpu.toNat) : Spans part [cpu]
  | range {before after : List Char} {first last : UInt64} (hfirst : Denotes before first.toNat)
    (hlast : Denotes after last.toNat) : Spans (before ++ '-' :: after) (span first last)

lemma dash_not_mem_of_denotes {n : Nat} (h : Denotes part n) : '-' ∉ part := fun hdash =>
  absurd (h.isDigit_or_eq '-' hdash) (by decide)

/-- **A part is read** as what it stands for. -/
lemma parsePart?_eq_some_iff : parsePart? part = some block ↔ Spans part block := by
  constructor
  · intro h
    rw [parsePart?] at h
    split at h
    · next before after hsplit =>
      simp only [Option.bind_eq_bind, Option.bind_eq_some_iff, Option.pure_def, Option.some.injEq,
        Text.Numeral.readUInt64?_eq_some_iff] at h
      obtain ⟨first, hfirst, last, hlast, rfl⟩ := h
      rw [eq_append_of_splitDash hsplit]
      exact .range hfirst hlast
    · obtain ⟨cpu, hcpu, rfl⟩ := Option.map_eq_some_iff.mp h
      exact .one (Text.Numeral.readUInt64?_eq_some_iff.mp hcpu)
  · rintro (hpart | ⟨hfirst, hlast⟩)
    · rw [parsePart?, splitDash_eq_none_iff.mpr (dash_not_mem_of_denotes hpart),
        Text.Numeral.readUInt64?_eq_some_iff.mpr hpart]
      rfl
    · rw [parsePart?, splitDash_append (dash_not_mem_of_denotes hfirst)]
      simp only [Text.Numeral.readUInt64?_eq_some_iff.mpr hfirst,
        Text.Numeral.readUInt64?_eq_some_iff.mpr hlast]
      rfl

/-! ## Lists -/

/-- The parts of a list: what stands between its commas once the blanks around it are gone.  A part of no
characters does not count. -/
def IsParted (text : List Char) (parts : List (List Char)) : Prop :=
  ∃ body pieces, Padded body text ∧ Bare body ∧ pieces ≠ [] ∧ (∀ piece ∈ pieces, ',' ∉ piece) ∧
    [','].intercalate pieces = body ∧ pieces.filter (· ≠ []) = parts

lemma isParted_iff {cs : List Char} {found : List (List Char)} : IsParted cs found ↔ parts cs = found := by
  have hfilter : ∀ pieces : List (List Char),
      (pieces.filter fun part => !part.isEmpty) = pieces.filter (· ≠ []) := by
    intro pieces
    congr 1
    funext part
    cases part <;> rfl
  rw [parts, hfilter]
  constructor
  · rintro ⟨body, pieces, hpadded, hbare, hne, hfree, hbody, rfl⟩
    rw [Text.trim_eq_iff.mpr ⟨hpadded, hbare⟩, Text.split_eq_iff.mpr ⟨hne, hfree, hbody⟩]
  · rintro rfl
    obtain ⟨hne, hfree, hbody⟩ := Text.split_eq_iff.mp (rfl : Text.split (· == ',') (Text.trim cs) = _)
    exact ⟨Text.trim cs, _, Text.padded_trim cs, Text.bare_trim cs, hne, hfree, hbody, rfl⟩

/-- **A list is read** part by part, and its blocks follow one another. -/
lemma parse?_eq_some_iff {found : List (List Char)} (h : IsParted text.toList found) :
    parse? text = some cpus ↔ ∃ blocks, List.Forall₂ Spans found blocks ∧ blocks.flatten = cpus := by
  rw [parse?, isParted_iff.mp h, Option.map_eq_some_iff]
  simp only [mapM_eq_some_iff, parsePart?_eq_some_iff]

lemma exists_parse?_iff {found : List (List Char)} (h : IsParted text.toList found) :
    (∃ cpus, parse? text = some cpus) ↔ ∀ part ∈ found, ∃ block, Spans part block := by
  have hsome : ∀ part, parsePart? part ≠ none ↔ ∃ block, Spans part block := by
    intro part
    simp only [Option.ne_none_iff_exists', parsePart?_eq_some_iff]
  rw [← Option.ne_none_iff_exists', parse?, isParted_iff.mp h, ne_eq, Option.map_eq_none_iff,
    mapM_eq_none_iff, not_exists]
  simp only [not_and, ← hsome, ne_eq]

/-! ## Written lists -/

/-- An entry of a written list: one processor, or a range of them. -/
inductive Entry
  | one (cpu : UInt64)
  | range (first last : UInt64)

namespace Entry

def written : Entry → String
  | one cpu => toString cpu
  | range first last => toString first ++ "-" ++ toString last

def members : Entry → List UInt64
  | one cpu => [cpu]
  | range first last => span first last

lemma spans (entry : Entry) : Spans entry.written.toList entry.members := by
  cases entry with
  | one cpu => exact .one (Text.Numeral.denotes_toString cpu)
  | range first last =>
    rw [written, String.toList_append, String.toList_append, List.append_assoc]
    exact .range (Text.Numeral.denotes_toString first) (Text.Numeral.denotes_toString last)

end Entry

/-- A list as the system writes it. -/
def render (entries : List Entry) : String := ",".intercalate (entries.map Entry.written)

lemma toList_render (entries : List Entry) :
    (render entries).toList = [','].intercalate (entries.map fun entry => entry.written.toList) := by
  rw [render, String.toList_intercalate, List.map_map]
  rfl

lemma Spans.ne_nil (h : Spans part block) : part ≠ [] := by
  obtain ⟨digits, rfl | rfl, hne, -⟩ | - := h
  · exact hne
  · exact List.cons_ne_nil _ _
  · exact List.append_ne_nil_of_right_ne_nil _ (List.cons_ne_nil _ _)

/-- In a part there are only digits, plus signs and dashes. -/
lemma Spans.mem_cases (h : Spans part block) : ∀ c ∈ part, c.isDigit = true ∨ c = '+' ∨ c = '-' := by
  intro c hc
  cases h with
  | one hpart => exact (hpart.isDigit_or_eq c hc).imp_right .inl
  | range hfirst hlast =>
    obtain hc | rfl | hc : c ∈ _ ∨ c = '-' ∨ c ∈ _ := by simpa using hc
    · exact (hfirst.isDigit_or_eq c hc).imp_right .inl
    · exact .inr (.inr rfl)
    · exact (hlast.isDigit_or_eq c hc).imp_right .inl

lemma Spans.comma_not_mem (h : Spans part block) : ',' ∉ part := fun hcomma =>
  absurd (h.mem_cases ',' hcomma) (by decide)

lemma Spans.blank_free (h : Spans part block) : ∀ c ∈ part, Text.isBlank c = false := by
  intro c hc
  obtain hdigit | rfl | rfl := h.mem_cases c hc
  · exact Text.isBlank_of_isDigit hdigit
  · rfl
  · rfl

lemma blank_free_render (entries : List Entry) : ∀ c ∈ (render entries).toList, Text.isBlank c = false := by
  intro c hc
  rw [toList_render] at hc
  obtain rfl | ⟨part, hpart, hc⟩ := Text.mem_intercalate hc
  · rfl
  · obtain ⟨entry, -, rfl⟩ := List.mem_map.mp hpart
    exact entry.spans.blank_free c hc

lemma isParted_render {entries : List Entry} (h : Padded (render entries).toList text.toList) :
    IsParted text.toList (entries.map fun entry => entry.written.toList) := by
  have hbare : Bare (render entries).toList := Text.bare_of_blank_free (blank_free_render entries)
  by_cases hentries : entries = []
  · subst hentries
    exact ⟨_, [[]], h, hbare, by simp, by simp, rfl, rfl⟩
  · refine ⟨_, _, h, hbare, mt List.map_eq_nil_iff.mp hentries, ?_, (toList_render entries).symm, ?_⟩
    · intro part hpart
      obtain ⟨entry, -, rfl⟩ := List.mem_map.mp hpart
      exact entry.spans.comma_not_mem
    · rw [List.filter_eq_self]
      intro part hpart
      obtain ⟨entry, -, rfl⟩ := List.mem_map.mp hpart
      exact decide_eq_true entry.spans.ne_nil

/-- **A written list is read back.** -/
lemma parse?_render {entries : List Entry} (h : Padded (render entries).toList text.toList) :
    parse? text = some (entries.flatMap Entry.members) := by
  rw [parse?_eq_some_iff (isParted_render h)]
  refine ⟨entries.map Entry.members, ?_, List.flatMap_def.symm⟩
  rw [List.forall₂_map_left_iff, List.forall₂_map_right_iff, List.forall₂_same]
  exact fun entry _ => entry.spans

/-! ## Siblings -/

lemma siblingOf?_eq_none_iff : siblingOf? core cpus = none ↔ ∀ cpu ∈ cpus, cpu = core := by
  simp [siblingOf?]

/-- **The sibling** is the first listed processor that is not the core itself. -/
lemma siblingOf?_eq_some_iff {other : UInt64} :
    siblingOf? core cpus = some other ↔
      ∃ before after, cpus = before ++ other :: after ∧ other ≠ core ∧ ∀ cpu ∈ before, cpu = core := by
  simp only [siblingOf?, List.find?_eq_some_iff_append, bne_iff_ne, ne_eq, Bool.not_eq_eq_eq_not,
    Bool.not_true, bne_eq_false_iff_eq]
  constructor
  · rintro ⟨hother, before, after, hcpus, hbefore⟩
    exact ⟨before, after, hcpus, hother, hbefore⟩
  · rintro ⟨before, after, hcpus, hother, hbefore⟩
    exact ⟨hother, before, after, hcpus, hbefore⟩

/-! ## The grammar -/

/-- **The grammar of processor lists.**  Every text has its parts, and it is a list iff each of them is a number
or two numbers with a dash between them; then its processors are those of its parts one after the other, where
a range holds what lies between its ends, in ascending order, and nothing if they are the wrong way round.  A
written list is read back, whatever blanks are around it.  A core's sibling is the first processor of a list
that is not the core, and there is none iff the list holds nothing else. -/
theorem parse?_reads_lists :
    (∀ text : String, ∃! found, IsParted text.toList found) ∧
      (∀ (text : String) found, IsParted text.toList found →
        ((∃ cpus, parse? text = some cpus) ↔ ∀ part ∈ found, ∃ block, Spans part block) ∧
          ∀ cpus, parse? text = some cpus ↔
            ∃ blocks, List.Forall₂ Spans found blocks ∧ blocks.flatten = cpus) ∧
      (∀ first last, (span first last).Pairwise (· < ·) ∧
        (∀ cpu, cpu ∈ span first last ↔ first ≤ cpu ∧ cpu ≤ last) ∧
        (last < first → span first last = [])) ∧
      (∀ entries (text : String), Padded (render entries).toList text.toList →
        parse? text = some (entries.flatMap Entry.members)) ∧
      ∀ core cpus, (siblingOf? core cpus = none ↔ ∀ cpu ∈ cpus, cpu = core) ∧
        ∀ other, siblingOf? core cpus = some other ↔
          ∃ before after, cpus = before ++ other :: after ∧ other ≠ core ∧ ∀ cpu ∈ before, cpu = core := by
  refine ⟨fun text => ?_, fun text found hfound => ?_, fun first last => ?_, fun entries text => ?_,
    fun core cpus => ?_⟩
  · exact ⟨parts text.toList, isParted_iff.mpr rfl, fun found hfound => (isParted_iff.mp hfound).symm⟩
  · exact ⟨exists_parse?_iff hfound, fun cpus => parse?_eq_some_iff hfound⟩
  · exact ⟨pairwise_span, fun cpu => mem_span, span_of_lt⟩
  · exact parse?_render
  · exact ⟨siblingOf?_eq_none_iff, fun other => siblingOf?_eq_some_iff⟩

/-- A list with blanks around it, an inverted range in it, and parts of no characters. -/
theorem parse?_reads_written_list :
    Padded (render [.range 6 8, .one 2, .range 3 1]).toList "\t6-8,2,3-1\u2003\n".toList ∧
      parse? "\t6-8,2,3-1\u2003\n" = some [6, 7, 8, 2] ∧
      IsParted " ,+6-8,,02,3-1, ".toList ["+6-8".toList, "02".toList, "3-1".toList] ∧
      parse? " ,+6-8,,02,3-1, " = some [6, 7, 8, 2] := by
  have hpadded : Padded (render [.range 6 8, .one 2, .range 3 1]).toList "\t6-8,2,3-1\u2003\n".toList :=
    ⟨['\t'], ['\u2003', '\n'], by decide, by decide, by decide +kernel⟩
  have hparted : IsParted " ,+6-8,,02,3-1, ".toList ["+6-8".toList, "02".toList, "3-1".toList] :=
    isParted_iff.mpr (by decide +kernel)
  refine ⟨hpadded, parse?_reads_lists.2.2.2.1 _ _ hpadded, hparted, ?_⟩
  refine ((parse?_reads_lists.2.1 _ _ hparted).2 _).mpr ⟨[[6, 7, 8], [2], []], ?_, rfl⟩
  exact .cons (parsePart?_eq_some_iff.mp (by decide +kernel)) (.cons (parsePart?_eq_some_iff.mp
    (by decide +kernel)) (.cons (parsePart?_eq_some_iff.mp (by decide +kernel)) .nil))

end OpTiming.Preflight.CpuList
