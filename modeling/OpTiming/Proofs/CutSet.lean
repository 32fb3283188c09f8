import Mathlib.Data.List.Pairwise
import OpTiming.Proofs.FeatureSet
import OpTiming.Proofs.Text.Split

/-!
# Feature sets as finite sets, cut at a threshold

A feature set is a word and a threshold.  What it stands for is a finite set of capabilities: those that were
listed when it was made and stand below the threshold.  Its members are `toList`, in threshold order, and every
question to the set is a question about them.

* **`pack_eq_iff`** — the word depends on which capabilities are listed, and on nothing else.
* **`mem_toList_iff`**, **`pairwise_toList`** — the members, each of them once and in order.
* **`read_show`** — the text of a set, cut at its spaces and read word by word, gives the members back.
-/

namespace OpTiming.FeatureSet

variable {s : FeatureSet} {caps caps' : List Capability} {threshold : Option Capability} {cap : Capability}

/-! ## Making a set -/

lemma restrict_ofList (caps : List Capability) (threshold : Option Capability) :
    (ofList caps).restrict threshold = ⟨pack 0 caps, threshold⟩ := by
  cases threshold <;> rfl

/-- **The word of a list is the word of its members**: neither order nor repetition leaves a trace in it. -/
lemma pack_eq_iff : pack 0 caps = pack 0 caps' ↔ ∀ cap, cap ∈ caps ↔ cap ∈ caps' := by
  constructor
  · intro hpack cap
    have hfound : found ⟨pack 0 caps, .none⟩ cap = found ⟨pack 0 caps', .none⟩ cap := by rw [hpack]
    rwa [found_pack, found_pack, Bool.eq_iff_iff, List.contains_iff_mem, List.contains_iff_mem] at hfound
  · intro hmem
    rw [← UInt32.toNat_inj]
    refine Nat.eq_of_testBit_eq fun n => ?_
    rw [Bool.eq_iff_iff, testBit_pack, testBit_pack]
    exact or_congr_right (exists_congr fun cap => and_congr_left fun _ => hmem cap)

lemma restrict_ofList_eq_iff :
    (ofList caps).restrict threshold = (ofList caps').restrict threshold ↔ ∀ cap, cap ∈ caps ↔ cap ∈ caps' := by
  rw [restrict_ofList, restrict_ofList, mk.injEq, and_iff_left rfl, pack_eq_iff]

/-! ## The members -/

lemma mem_all (cap : Capability) : cap ∈ Capability.all := by
  cases cap <;> decide

lemma mem_toList_iff : cap ∈ s.toList ↔ s.supports cap = true := by
  rw [toList, List.mem_filter]
  exact and_iff_right (mem_all cap)

lemma pairwise_toList (s : FeatureSet) : s.toList.Pairwise fun cap cap' => cap.ordinal < cap'.ordinal := by
  have hall : Capability.all.Pairwise fun cap cap' => cap.ordinal < cap'.ordinal := by decide
  exact hall.filter _

/-- A set that is made again from its members supports what it supported. -/
lemma supports_ofList_toList (s : FeatureSet) (cap : Capability) :
    (ofList s.toList).supports cap = s.supports cap := by
  have hlisted : ((ofList s.toList).restrict .none).supports cap = true ↔ cap ∈ s.toList ∧ _ :=
    supports_restrict_ofList_iff
  rw [Bool.eq_iff_iff, ← mem_toList_iff (s := s)]
  simpa [restrict] using hlisted

/-! ## Questions -/

lemma supportsOrdinal_ordinal (s : FeatureSet) (cap : Capability) :
    s.supportsOrdinal cap.ordinal = (s.supports cap, .none) := by
  rw [supportsOrdinal, Capability.ofOrdinal?_ordinal]

/-- A place that holds no capability is not supported, and a note says so. -/
lemma supportsOrdinal_of_vacant {n : Nat} (hvacant : ∀ cap : Capability, cap.ordinal ≠ n) (s : FeatureSet) :
    s.supportsOrdinal n = (false, some ("unknown cpu feature: ordinal " ++ toString n)) := by
  have hplace : Capability.ofOrdinal? n = .none := by
    rw [Option.eq_none_iff_forall_ne_some]
    exact fun cap hcap => hvacant cap (Capability.ofOrdinal?_eq_some_iff.mp hcap)
  rw [supportsOrdinal, hplace]

/-- **The first missing capability** of a guard is its earliest one that is no member. -/
lemma firstMissing?_eq_some_iff {guard : List Capability} :
    s.firstMissing? guard = some cap ↔
      ∃ before after, guard = before ++ cap :: after ∧ cap ∉ s.toList ∧ ∀ other ∈ before, other ∈ s.toList := by
  rw [firstMissing?, List.find?_eq_some_iff_append]
  simp only [mem_toList_iff, Bool.not_eq_eq_eq_not, Bool.not_true, Bool.not_not, Bool.not_eq_true]
  constructor
  · rintro ⟨hmissing, before, after, hguard, hbefore⟩
    exact ⟨before, after, hguard, hmissing, hbefore⟩
  · rintro ⟨before, after, hguard, hmissing, hbefore⟩
    exact ⟨hmissing, before, after, hguard, hbefore⟩

/-! ## The text of a set -/

lemma show_of_ne_nil (h : s.toList ≠ []) : s.show = " ".intercalate (s.toList.map Capability.name) := by
  rw [FeatureSet.show]
  cases hmembers : s.toList with
  | nil => exact absurd hmembers h
  | cons cap caps => rfl

/-- **The text of a set is read back**: between its spaces stand the names of the members, in order. -/
lemma read_show (h : s.toList ≠ []) :
    (s.show.toList.splitOn ' ').map (fun name => Capability.ofName (String.ofList name)) =
      s.toList.map Except.ok := by
  have hchars : s.show.toList = [' '].intercalate (s.toList.map fun cap => cap.name.toList) := by
    rw [show_of_ne_nil h, String.toList_intercalate, List.map_map]
    rfl
  have hfree : ∀ name ∈ s.toList.map fun cap => cap.name.toList, ' ' ∉ name := by
    rw [List.forall_mem_map]
    exact fun cap _ => cap.space_not_mem_name
  rw [hchars, List.splitOn_intercalate ' ' hfree (by simpa using h), List.map_map]
  refine List.map_congr_left fun cap _ => ?_
  rw [Function.comp_apply, String.ofList_toList]
  exact Capability.ofName_eq_ok_iff.mpr cap.parse?_name

/-- No name of a capability is the text of the empty set. -/
lemma show_eq_none_iff : s.show = "(none)" ↔ s.toList = [] := by
  constructor
  · intro hshow
    by_contra hmembers
    have hread := read_show hmembers
    have hnone : ("(none)".toList.splitOn ' ').map (fun name => Capability.ofName (String.ofList name)) =
        [.error ⟨"(none)"⟩] := by
      decide +kernel
    rw [hshow, hnone] at hread
    have hmem : .error ⟨"(none)"⟩ ∈ s.toList.map (Except.ok : _ → Except Capability.Unknown _) :=
      hread ▸ List.mem_singleton_self _
    simp at hmem
  · intro hmembers
    rw [FeatureSet.show, hmembers]

/-! ## The set -/

/-- **A feature set is a finite set, cut at a threshold.**  Two lists make the same set iff they have the same
members.  The set lists, in threshold order, what was listed and stands below the threshold; made again from this
list, it supports the same.  A capability is supported iff it is a member, whether it is named or given by its
place, and a place that holds none is not.  The first capability that a guard misses is its earliest one that is
no member; it misses none iff all of it is supported.  The text of the set says that there is no member, or gives
the members back. -/
theorem cut_set_answers (caps : List Capability) (threshold : Option Capability) :
    let s := (ofList caps).restrict threshold
    (∀ caps' : List Capability, (ofList caps').restrict threshold = s ↔ ∀ cap, cap ∈ caps' ↔ cap ∈ caps) ∧
      (s.toList.Pairwise fun cap cap' => cap.ordinal < cap'.ordinal) ∧
      (∀ cap, cap ∈ s.toList ↔ cap ∈ caps ∧ ∀ t, threshold = some t → cap.ordinal < t.ordinal) ∧
      (∀ cap, s.supports cap = true ↔ cap ∈ s.toList) ∧
      (∀ cap, (ofList s.toList).supports cap = s.supports cap) ∧
      (∀ cap : Capability, (s.supportsOrdinal cap.ordinal).1 = s.supports cap) ∧
      (∀ n, (∀ cap : Capability, cap.ordinal ≠ n) → (s.supportsOrdinal n).1 = false) ∧
      (∀ guard cap, s.firstMissing? guard = some cap ↔
        ∃ before after, guard = before ++ cap :: after ∧ cap ∉ s.toList ∧ ∀ other ∈ before, other ∈ s.toList) ∧
      (∀ guard, s.firstMissing? guard = Option.none ↔ s.supportsAll guard = true) ∧
      (∀ guard, s.supportsAll guard = true ↔ ∀ cap ∈ guard, cap ∈ s.toList) ∧
      (s.show = "(none)" ↔ s.toList = []) ∧
      (s.toList ≠ [] → (s.show.toList.splitOn ' ').map (fun name => Capability.ofName (String.ofList name)) =
        s.toList.map Except.ok) := by
  intro s
  refine ⟨fun caps' => restrict_ofList_eq_iff, pairwise_toList s, fun cap => ?_, fun cap => mem_toList_iff.symm,
    supports_ofList_toList s, fun cap => ?_, fun n hvacant => ?_, fun guard cap => firstMissing?_eq_some_iff,
    fun guard => firstMissing?_eq_none_iff, fun guard => ?_, show_eq_none_iff, read_show⟩
  · rw [mem_toList_iff, supports_restrict_ofList_iff]
  · rw [supportsOrdinal_ordinal]
  · rw [supportsOrdinal_of_vacant hvacant]
  · simp only [supportsAll_iff, mem_toList_iff]

/-- A list with a repetition, out of order, and one of its capabilities at the threshold. -/
theorem cut_set_of_sample :
    let s := (ofList [.avx2, .vnni, .sse, .avx2]).restrict (some .vnni)
    (ofList [.sse, .avx2, .vnni]).restrict (some .vnni) = s ∧ s.toList = [.sse, .avx2] ∧
      (s.supportsOrdinal 14).1 = false ∧
      (s.show.toList.splitOn ' ').map (fun name => Capability.ofName (String.ofList name)) =
        [.ok .sse, .ok .avx2] := by
  intro s
  obtain ⟨hsame, -, -, -, -, -, hvacant, -, -, -, -, hread⟩ :=
    cut_set_answers [.avx2, .vnni, .sse, .avx2] (some .vnni)
  have hmembers : s.toList = [.sse, .avx2] := by decide
  refine ⟨(hsame _).mpr ?_, hmembers, hvacant 14 ?_, ?_⟩
  · intro cap
    cases cap <;> decide
  · intro cap
    cases cap <;> decide
  · rw [hread (by rw [hmembers]; exact List.cons_ne_nil _ _), hmembers]
    rfl

end OpTiming.FeatureSet
