import Mathlib.Data.List.Induction
import OpTiming.Proofs.FeatureSet

/-!
# Thresholds, one after the other

A set has room for one threshold.  A threshold that it is given takes the place of the one that it
carried, so of several thresholds **the last one alone** decides, together with what was found.

* **`under`** — a set that was given thresholds, one after the other.
* **`supports_under_ofList_iff`** — what it supports then.
* **`last_threshold_decides`** — exactly when a further threshold gives nothing back, and exactly when
  all thresholds given so far are still kept.
* **`later_threshold_enables`** — neither is always so: a second threshold that is higher than the first
  one gives back what stands between the two.
-/

namespace OpTiming.FeatureSet

/-- A set that was given thresholds, one after the other. -/
def under (s : FeatureSet) (thresholds : List Capability) : FeatureSet :=
  thresholds.foldl disabledFrom s

@[simp] lemma under_concat (s : FeatureSet) (thresholds : List Capability) (t : Capability) :
    s.under (thresholds ++ [t]) = (s.under thresholds).disabledFrom t := by
  rw [under, List.foldl_append]
  rfl

/-! A threshold changes nothing of what was found, and puts itself in the place of the one before. -/

@[simp] lemma disabledFrom_found (s : FeatureSet) (t : Capability) : (s.disabledFrom t).found = s.found :=
  rfl

@[simp] lemma disabledFrom_threshold (s : FeatureSet) (t : Capability) :
    (s.disabledFrom t).threshold = some t := rfl

lemma under_found (s : FeatureSet) (thresholds : List Capability) :
    (s.under thresholds).found = s.found := by
  induction thresholds using List.reverseRecOn with
  | nil => rfl
  | append_singleton thresholds t ih => rw [under_concat, disabledFrom_found, ih]

lemma under_threshold (s : FeatureSet) (thresholds : List Capability) :
    (s.under thresholds).threshold = thresholds.getLast?.or s.threshold := by
  induction thresholds using List.reverseRecOn with
  | nil => rfl
  | append_singleton thresholds t ih =>
      rw [under_concat, disabledFrom_threshold, List.getLast?_concat, Option.some_or]

variable {caps thresholds : List Capability}

/-- **What was found and stands below the last threshold is supported.** -/
lemma supports_under_ofList_iff {cap : Capability} :
    ((ofList caps).under thresholds).supports cap = true ↔
      cap ∈ caps ∧ ∀ t, thresholds.getLast? = some t → cap.ordinal < t.ordinal := by
  rw [supports_iff, under_found, under_threshold]
  simp [ofList]

/-- What stands at or above the last threshold is not supported, and neither is what was not found. -/
lemma supports_under_ofList_eq_false_iff {cap : Capability} :
    ((ofList caps).under thresholds).supports cap = false ↔
      (cap ∈ caps → ∃ t, thresholds.getLast? = some t ∧ t.ordinal ≤ cap.ordinal) := by
  rw [Bool.eq_false_iff, ne_eq, supports_under_ofList_iff]
  simp only [not_and, not_forall, Nat.not_lt, exists_prop]

/-! ## What a further threshold gives back -/

lemma supports_further_iff {c cap : Capability} :
    (((ofList caps).under thresholds).disabledFrom c).supports cap = true ↔
      cap ∈ caps ∧ cap.ordinal < c.ordinal := by
  rw [← under_concat, supports_under_ofList_iff, List.getLast?_concat]
  simp

/-- **A further threshold gives back** what was found from the threshold in force up to itself. -/
lemma given_back_iff {c cap : Capability} :
    (((ofList caps).under thresholds).disabledFrom c).supports cap = true ∧
        ((ofList caps).under thresholds).supports cap = false ↔
      cap ∈ caps ∧ cap.ordinal < c.ordinal ∧
        ∃ t, thresholds.getLast? = some t ∧ t.ordinal ≤ cap.ordinal := by
  rw [supports_further_iff, supports_under_ofList_eq_false_iff]
  constructor
  · rintro ⟨⟨hcap, hbelow⟩, hcut⟩
    exact ⟨hcap, hbelow, hcut hcap⟩
  · rintro ⟨hcap, hbelow, hcut⟩
    exact ⟨⟨hcap, hbelow⟩, fun _ => hcut⟩

/-- A further threshold gives nothing back iff what was found below it stands below the threshold in
force as well. -/
lemma further_within_iff {c : Capability} :
    (((ofList caps).under thresholds).disabledFrom c).Within ((ofList caps).under thresholds) ↔
      ∀ t, thresholds.getLast? = some t →
        ∀ cap ∈ caps, cap.ordinal < c.ordinal → cap.ordinal < t.ordinal := by
  constructor
  · intro hwithin t hlast cap hcap hbelow
    have hsupports := hwithin cap (supports_further_iff.mpr ⟨hcap, hbelow⟩)
    exact (supports_under_ofList_iff.mp hsupports).2 t hlast
  · intro hbelow cap hcap
    obtain ⟨hfound, hcap⟩ := supports_further_iff.mp hcap
    exact supports_under_ofList_iff.mpr ⟨hfound, fun t hlast => hbelow t hlast cap hfound hcap⟩

/-! ## Thresholds that are kept -/

/-- All thresholds that were given are kept iff what was found at or above one of them stands at or
above the last one. -/
lemma thresholds_kept_iff :
    (∀ t ∈ thresholds, ∀ cap, t.ordinal ≤ cap.ordinal →
        ((ofList caps).under thresholds).supports cap = false) ↔
      ∀ last, thresholds.getLast? = some last →
        ∀ t ∈ thresholds, ∀ cap ∈ caps, t.ordinal ≤ cap.ordinal → last.ordinal ≤ cap.ordinal := by
  constructor
  · intro hkept last hlast t ht cap hcap hle
    obtain ⟨last', hlast', hle'⟩ := supports_under_ofList_eq_false_iff.mp (hkept t ht cap hle) hcap
    obtain rfl := Option.some.inj (hlast.symm.trans hlast')
    exact hle'
  · intro hkept t ht cap hle
    rw [supports_under_ofList_eq_false_iff]
    intro hcap
    have hsome := List.getLast?_eq_some_getLast (List.ne_nil_of_mem ht)
    exact ⟨_, hsome, hkept _ hsome t ht cap hcap hle⟩

/-- **Of several thresholds the last one decides.**  After any thresholds, what is supported is what was
found below the last of them; nothing at or above it is.  A further threshold gives back what was found
from the last one up to itself, and nothing else; so it gives nothing back iff nothing was found there,
as when no threshold was given before or the last one is not below the further one.  The earlier
thresholds are kept iff the last one is as strict as each of them about what was found. -/
theorem last_threshold_decides (caps thresholds : List Capability) (c : Capability) :
    let s := (ofList caps).under thresholds
    (∀ cap, s.supports cap = true ↔
        cap ∈ caps ∧ ∀ last, thresholds.getLast? = some last → cap.ordinal < last.ordinal) ∧
      (∀ cap, (s.disabledFrom c).supports cap = true ∧ s.supports cap = false ↔
        cap ∈ caps ∧ cap.ordinal < c.ordinal ∧
          ∃ last, thresholds.getLast? = some last ∧ last.ordinal ≤ cap.ordinal) ∧
      ((s.disabledFrom c).Within s ↔ ∀ last, thresholds.getLast? = some last →
        ∀ cap ∈ caps, cap.ordinal < c.ordinal → cap.ordinal < last.ordinal) ∧
      ((∀ t ∈ thresholds, ∀ cap, t.ordinal ≤ cap.ordinal → s.supports cap = false) ↔
        ∀ last, thresholds.getLast? = some last → ∀ t ∈ thresholds, ∀ cap ∈ caps,
          t.ordinal ≤ cap.ordinal → last.ordinal ≤ cap.ordinal) :=
  ⟨fun _ => supports_under_ofList_iff, fun _ => given_back_iff, further_within_iff, thresholds_kept_iff⟩

/-- A processor was found to have two extensions.  The threshold `sse2` takes both away, and a further
threshold `bf16` gives both back, although they stand at or above the first one. -/
theorem later_threshold_enables :
    let found := ofList [.sse2, .avx]
    (∀ cap ∈ [Capability.sse2, .avx], (found.under [.sse2]).supports cap = false ∧
        Capability.sse2.ordinal ≤ cap.ordinal ∧ (found.under [.sse2, .bf16]).supports cap = true) ∧
      ¬ ((found.under [.sse2]).disabledFrom .bf16).Within (found.under [.sse2]) := by
  intro found
  refine ⟨by decide, fun hwithin => ?_⟩
  exact absurd (hwithin .avx (by decide)) (by decide)

end OpTiming.FeatureSet
