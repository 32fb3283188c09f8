import Mathlib.Algebra.Group.Nat.Defs
import Mathlib.Data.List.Basic
import OpTiming.Capability
import OpTiming.Proofs.Text.Blank

/-!
# Places and names of capabilities

A capability is known by its place in the threshold order, which is also the place of its bit, and by sixteen
words.  A text names a capability if one of these words is left of it when the blanks around it are trimmed away,
its separators are dropped and its letters are made small.

* **`squeeze`**, **`wordOf`** — what is left of a text.
* **`words`** — the words and what they name.  Their letters are plain (`plain_of_mem_words`): no word has a
  blank or a character beyond ASCII, and none comes of making such a character small.  So a text that holds one
  between its ends names nothing.
* **`ofName_looks_up_words`** — reading a name is looking up what is left of it.
-/

namespace OpTiming.Capability

open Text (Bare Padded trim isBlank)

/-! ## Places -/

/-- A capability is the one at its place. -/
lemma ofOrdinal?_ordinal (cap : Capability) : ofOrdinal? cap.ordinal = some cap := by
  cases cap <;> rfl

lemma ofOrdinal?_eq_some_iff {n : Nat} {cap : Capability} : ofOrdinal? n = some cap ↔ cap.ordinal = n := by
  constructor
  · intro hplace
    obtain ⟨hlt, rfl⟩ := List.getElem?_eq_some_iff.mp hplace
    have hordinals : ∀ place : Fin all.length, (all.get place).ordinal = place := by decide
    exact hordinals ⟨n, hlt⟩
  · rintro rfl
    exact ofOrdinal?_ordinal cap

lemma ordinal_injective {cap cap' : Capability} (h : cap.ordinal = cap'.ordinal) : cap = cap' := by
  have hcap := ofOrdinal?_ordinal cap
  rw [h, ofOrdinal?_ordinal] at hcap
  exact (Option.some.inj hcap).symm

lemma toNat_bit (cap : Capability) : cap.bit.toNat = 2 ^ cap.ordinal := by
  cases cap <;> rfl

/-! ## What is left of a text -/

/-- A text without its separators, in small letters. -/
def squeeze (cs : List Char) : List Char := (cs.filter fun c => !isSeparator c).map Char.toLower

/-- What is left of a text: no blanks around it, no separators, no ASCII capitals. -/
def wordOf (text : String) : String := String.ofList (squeeze (trim text.toList))

/-- Only the capitals of ASCII have another small letter, which stands 32 places later. -/
lemma toNat_toLower (c : Char) :
    c.toLower.toNat = if 65 ≤ c.toNat ∧ c.toNat ≤ 90 then c.toNat + 32 else c.toNat := by
  delta Char.toLower
  split
  next hval =>
    have hcapital : 65 ≤ c.toNat ∧ c.toNat ≤ 90 := hval
    rw [if_pos hcapital]
    have hlt : c.val.toNat + 32 < 2 ^ 32 := Nat.lt_of_le_of_lt (Nat.add_le_add_right hcapital.2 32) (by decide)
    exact (UInt32.toNat_add c.val 32).trans (Nat.mod_eq_of_lt hlt)
  next hval =>
    have hother : ¬ (65 ≤ c.toNat ∧ c.toNat ≤ 90) := hval
    rw [if_neg hother]

lemma isSeparator_iff (c : Char) : isSeparator c = true ↔ c.toNat = 46 ∨ c.toNat = 95 ∨ c.toNat = 45 := by
  simp [isSeparator, ← Char.toNat_inj, or_assoc]

/-- Making letters small neither makes a separator nor takes one away. -/
lemma isSeparator_toLower (c : Char) : isSeparator c.toLower = isSeparator c := by
  rw [Bool.eq_iff_iff, isSeparator_iff, isSeparator_iff, toNat_toLower]
  split <;> omega

/-- Whether separators are dropped before or after letters are made small does not matter. -/
lemma key_eq_wordOf (text : String) : key text = wordOf text := by
  have hcomp : (fun c => !isSeparator c) ∘ Char.toLower = fun c => !isSeparator c := by
    funext c
    rw [Function.comp_apply, isSeparator_toLower]
  rw [key, wordOf, squeeze, Text.lowerAscii, List.filter_map, hcomp]

lemma wordOf_of_padded {name text : String} (h : Padded name.toList text.toList) : wordOf text = wordOf name := by
  rw [wordOf, wordOf, h.trim_eq]

lemma wordOf_of_bare {text : String} (h : Bare text.toList) : wordOf text = String.ofList (squeeze text.toList) := by
  rw [wordOf, h.trim_eq]

/-! ## The words -/

/-- The accepted words and what they name. -/
def words : List (String × Capability) :=
  [ ("sse", sse), ("sse2", sse2), ("sse3", sse3), ("sse41", sse41), ("sse42", sse42), ("avx", avx), ("avx2", avx2),
    ("fma", fma), ("avx512", avx512), ("vnni", vnni), ("neon", neon), ("asimd", neon), ("dotprod", dotProd),
    ("dot", dotProd), ("i8mm", i8mm), ("bf16", bf16) ]

lemma ofKey?_eq_some_iff {word : String} {cap : Capability} : ofKey? word = some cap ↔ (word, cap) ∈ words := by
  rw [ofKey?.eq_def]
  split <;> simp_all [words, eq_comm]

/-- **A text is read by its word.** -/
lemma parse?_eq_some_iff {text : String} {cap : Capability} :
    parse? text = some cap ↔ (wordOf text, cap) ∈ words := by
  rw [parse?, key_eq_wordOf, ofKey?_eq_some_iff]

lemma parse?_eq_none_iff {text : String} : parse? text = none ↔ wordOf text ∉ words.map Prod.fst := by
  simp only [Option.eq_none_iff_forall_ne_some, ne_eq, parse?_eq_some_iff, List.mem_map, Prod.exists,
    exists_and_right, exists_eq_right, not_exists]

lemma parse?_congr {text text' : String} (h : wordOf text = wordOf text') : parse? text = parse? text' := by
  rw [parse?, parse?, key_eq_wordOf, key_eq_wordOf, h]

lemma parse?_of_padded {name text : String} (h : Padded name.toList text.toList) : parse? text = parse? name :=
  parse?_congr (wordOf_of_padded h)

/-- **Blanks around the name of a capability do not matter.** -/
theorem parse?_trimString (text : String) : parse? (Text.trimString text) = parse? text := by
  refine (parse?_of_padded ?_).symm
  rw [Text.trimString, String.toList_ofList]
  exact Text.padded_trim text.toList

lemma parse?_name (cap : Capability) : parse? cap.name = some cap := by
  cases cap <;> decide +kernel

lemma name_injective {cap cap' : Capability} (h : cap.name = cap'.name) : cap = cap' := by
  have hparse := cap.parse?_name
  rw [h, parse?_name] at hparse
  exact (Option.some.inj hparse).symm

lemma space_not_mem_name (cap : Capability) : ' ' ∉ cap.name.toList := by
  cases cap <;> decide +kernel

lemma parse?_variant (cap : Capability) : parse? cap.variant = some cap := by
  cases cap <;> decide +kernel

/-! ## Characters that spoil a name -/

/-- The words are made of digits and small letters of ASCII. -/
lemma plain_of_mem_words {word : String} (h : word ∈ words.map Prod.fst) :
    ∀ c ∈ word.toList, (48 ≤ c.toNat ∧ c.toNat ≤ 57) ∨ (97 ≤ c.toNat ∧ c.toNat ≤ 122) := by
  have hall : ((words.map Prod.fst).all fun word => word.toList.all fun c =>
      (48 ≤ c.toNat ∧ c.toNat ≤ 57) ∨ (97 ≤ c.toNat ∧ c.toNat ≤ 122)) = true := by
    decide +kernel
  simp only [List.all_eq_true, decide_eq_true_eq] at hall
  exact hall word h

lemma toLower_mem_wordOf {text : String} {c : Char} (hc : c ∈ trim text.toList) (hkept : isSeparator c = false) :
    c.toLower ∈ (wordOf text).toList := by
  rw [wordOf, String.toList_ofList, squeeze]
  exact List.mem_map_of_mem (List.mem_filter.mpr ⟨hc, by rw [hkept, Bool.not_false]⟩)

/-- A blank or a character beyond ASCII does not become a letter of a word, and is not dropped either. -/
lemma parse?_eq_none_of_odd {text : String} {c : Char} (hc : c ∈ trim text.toList)
    (hodd : isBlank c = true ∨ 128 ≤ c.toNat) : parse? text = none := by
  rw [parse?_eq_none_iff]
  intro hword
  simp only [isBlank, Bool.or_eq_true, Bool.and_eq_true, decide_eq_true_eq, beq_iff_eq] at hodd
  have hkept : isSeparator c = false := by
    rw [Bool.eq_false_iff, ne_eq, isSeparator_iff]
    omega
  have hplain := plain_of_mem_words hword _ (toLower_mem_wordOf hc hkept)
  rw [toNat_toLower] at hplain
  split at hplain <;> omega

/-! ## Names -/

lemma ofName_eq_ok_iff {text : String} {cap : Capability} :
    ofName text = .ok cap ↔ parse? text = some cap := by
  rw [ofName]
  cases parse? text <;> simp

lemma ofName_eq_error_iff {text : String} {unknown : Unknown} :
    ofName text = .error unknown ↔ parse? text = none ∧ unknown = ⟨text⟩ := by
  rw [ofName]
  cases parse? text <;> simp [eq_comm]

lemma toOption_ofName (text : String) : (ofName text).toOption = parse? text := by
  rw [ofName]
  cases parse? text <;> rfl

/-- **Reading a name is looking up its word.**  A text names a capability iff what is left of it, without blanks
around it, separators and ASCII capitals, is one of the sixteen words, and then the one that the word stands for;
otherwise it is given back as it was.  So texts without blanks around them that become equal without separators
and capitals have the same outcome, and so has a text with blanks added around it.  A blank or a character beyond
ASCII between the ends of a text spoils it.  The short name of a capability and the name under which it is
serialised are read back. -/
theorem ofName_looks_up_words :
    words.length = 16 ∧
      (∀ text, (∃ cap, ofName text = .ok cap) ↔ wordOf text ∈ words.map Prod.fst) ∧
      (∀ text cap, ofName text = .ok cap ↔ (wordOf text, cap) ∈ words) ∧
      (∀ text unknown, ofName text = .error unknown ↔
        wordOf text ∉ words.map Prod.fst ∧ unknown = ⟨text⟩) ∧
      (∀ text text', Bare text.toList → Bare text'.toList → squeeze text.toList = squeeze text'.toList →
        (ofName text).toOption = (ofName text').toOption) ∧
      (∀ text padded, Padded text.toList padded.toList →
        (ofName padded).toOption = (ofName text).toOption) ∧
      (∀ text, ∀ c ∈ trim text.toList, isBlank c = true ∨ 128 ≤ c.toNat → ofName text = .error ⟨text⟩) ∧
      ∀ cap : Capability, ofName cap.name = .ok cap ∧ ofName cap.variant = .ok cap := by
  refine ⟨rfl, fun text => ?_, fun text cap => ?_, fun text unknown => ?_, fun text text' hbare hbare' heq => ?_,
    fun text padded hpadded => ?_, fun text c hc hodd => ?_, fun cap => ?_⟩
  · rw [← not_iff_not, ← parse?_eq_none_iff, Option.eq_none_iff_forall_ne_some, not_exists]
    simp only [ofName_eq_ok_iff, ne_eq]
  · rw [ofName_eq_ok_iff, parse?_eq_some_iff]
  · rw [ofName_eq_error_iff, parse?_eq_none_iff]
  · rw [toOption_ofName, toOption_ofName]
    exact parse?_congr (by rw [wordOf_of_bare hbare, wordOf_of_bare hbare', heq])
  · rw [toOption_ofName, toOption_ofName]
    exact parse?_of_padded hpadded
  · exact ofName_eq_error_iff.mpr ⟨parse?_eq_none_of_odd hc hodd, rfl⟩
  · exact ⟨ofName_eq_ok_iff.mpr cap.parse?_name, ofName_eq_ok_iff.mpr cap.parse?_variant⟩

/-- Two spellings of a name, one of them with separators at its ends; blanks of two kinds around it; a blank that
a separator keeps from being trimmed away; and a long s, which is no ASCII letter. -/
theorem ofName_of_samples :
    ((ofName "A.V-X5_12").toOption = (ofName "_avx512.").toOption ∧ ofName "_avx512." = .ok avx512) ∧
      (ofName "\u3000A.V-X5_12\n").toOption = (ofName "A.V-X5_12").toOption ∧
      ofName "- sse" = .error ⟨"- sse"⟩ ∧ ofName "\u017fse" = .error ⟨"\u017fse"⟩ := by
  obtain ⟨-, -, hword, -, hspelling, hpadding, hodd, -⟩ := ofName_looks_up_words
  have hbare : ∀ text ∈ ["A.V-X5_12", "_avx512."], Bare text.toList := by
    intro text htext
    have hblank : (["A.V-X5_12", "_avx512."].all fun text => text.toList.all fun c => !isBlank c) = true := by
      decide +kernel
    simp only [List.all_eq_true, Bool.not_eq_true'] at hblank
    exact Text.bare_of_blank_free (hblank text htext)
  refine ⟨⟨hspelling _ _ ?_ ?_ ?_, (hword _ _).mpr ?_⟩, hpadding _ _ ?_, hodd _ ' ' ?_ ?_, hodd _ '\u017f' ?_ ?_⟩
  · exact hbare _ (by simp)
  · exact hbare _ (by simp)
  · decide +kernel
  · decide +kernel
  · exact ⟨['\u3000'], ['\n'], by decide, by decide, by decide +kernel⟩
  · decide +kernel
  · exact .inl (by decide)
  · decide +kernel
  · exact .inr (by decide)

end OpTiming.Capability
