import OpTiming.Proofs.Detection.X86
import OpTiming.Proofs.Host.Frames

/-!
# What a run on the host may call

Calling a body whose instructions the processor does not have ends the program, and so does calling one
whose registers the operating system does not keep.  What stands between the catalog and such a call is
a chain of four links, and this file closes it.

* **Detection** finds a capability on wide registers only where their state is granted
  (`Detection.X86.wide_of_mem_detect`, `widest_of_mem_detect`).
* **The threshold** leaves of what was found only what stands below it (`FeatureSet.supports_restrict_ofList_iff`).
* **The schedule** calls only bodies all of whose needs are supported
  (`Catalog.guarded_of_mem_schedule`).
* **The table** names the needs of its bodies.  This last link is a fact about written-down data and is
  checked row by row: `narrow_bodies`, `widest_families` and `needs_eq_of_label_eq`.
-/

namespace OpTiming

open OpTiming.Detection.X86

namespace Probe.X86

/-! ## The table -/

/-- Every body of the table with all that it needs. -/
def guardedBodies : List (Body × List Capability) := catalog.flatMap Family.guarded

/-- The bodies that touch nothing but the registers of the oldest extensions. -/
def narrowLabels : List String :=
  ["mulps_sse throughput", "mulps_sse latency", "mulpd_sse throughput", "mulpd_sse latency"]

/-- The titles of the families on registers of 512 bits. -/
def widestTitles : List String := ["AVX-512", "AVX-512 VNNI"]

/-- All bodies but four need a capability on wide registers, also those in the family of the oldest
extensions. -/
lemma narrow_bodies : ∀ guarded ∈ guardedBodies,
    (∀ cap ∈ guarded.2, cap ∉ wide) → guarded.1.label ∈ narrowLabels := by
  decide

lemma widest_families : ∀ family ∈ catalog, family.title ∈ widestTitles →
    ∀ guarded ∈ family.guarded, ∃ cap ∈ guarded.2, cap ∈ widest := by
  decide

/-- A body that stands in the table twice, as a warmup and in a row, needs the same in both places. -/
lemma needs_eq_of_label_eq : ∀ guarded ∈ guardedBodies, ∀ guarded' ∈ guardedBodies,
    guarded.1.label = guarded'.1.label → guarded.2 = guarded'.2 := by
  decide

end Probe.X86

namespace Host

open OpTiming.Probe.X86

variable {host : Host} {config : Config}

/-! ## The calls that are due -/

/-- **Every call that is due is that of a body in the table whose needs were all detected** and stand
below the threshold, in whichever places of the table that body stands. -/
lemma needs_of_mem_schedule {c : Call}
    (h : c ∈ Catalog.schedule (host.features config) config catalog) :
    ∃ guarded ∈ guardedBodies, guarded.1.label = c.body ∧
      ∀ guarded' ∈ guardedBodies, guarded'.1.label = c.body → ∀ cap ∈ guarded'.2,
        cap ∈ detect host.processor ∧ ∀ t, config.disabledFrom = some t → cap.ordinal < t.ordinal := by
  obtain ⟨-, guarded, hguarded, hlabel, hsupports⟩ := Catalog.guarded_of_mem_schedule h
  refine ⟨guarded, hguarded, hlabel, ?_⟩
  intro guarded' hguarded' hlabel' cap hcap
  have hneeds := needs_eq_of_label_eq guarded hguarded guarded' hguarded' (hlabel.trans hlabel'.symm)
  rw [← hneeds] at hcap
  exact FeatureSet.supports_restrict_ofList_iff.mp (FeatureSet.supportsAll_iff.mp hsupports cap hcap)

/-! ## The calls of a run -/

/-- **No body is called that the processor, the operating system or the settings rule out**, on whatever
host and however the run ends.  Where the state of the registers of 256 bits is not granted, only four
bodies are ever called.  The families on registers of 512 bits are called only where their state is
granted and leaf 7 is reached.  No body is called that needs a capability at the threshold or above. -/
theorem calls_are_gated (ink : Ink) (host : Host) (config : Config) (b : Bench) :
    ∃ made, ((host.execute ink config).on b).2.calls.toList = b.calls.toList ++ made ∧
      (bit (host.processor.leaf 1).ecx 27 = false ∨ host.processor.xcr0 &&& 0x6 ≠ 0x6 →
        ∀ c ∈ made, c.body ∈ narrowLabels) ∧
      (∀ c ∈ made, ∀ family ∈ catalog, family.title ∈ widestTitles →
        ∀ guarded ∈ family.guarded, guarded.1.label = c.body →
          bit (host.processor.leaf 1).ecx 27 = true ∧ 7 ≤ (host.processor.leaf 0).eax.toNat ∧
            host.processor.xcr0 &&& 0xE6 = 0xE6) ∧
      ∀ t, config.disabledFrom = some t → ∀ c ∈ made, ∀ family ∈ catalog,
        ∀ guarded ∈ family.guarded, guarded.1.label = c.body →
          ∀ cap ∈ guarded.2, ¬ t.ordinal ≤ cap.ordinal := by
  obtain ⟨made, hmade, hcalls⟩ := execute_calls ink host config b
  refine ⟨made, hcalls, ?_, ?_, ?_⟩
  · intro hstate c hc
    obtain ⟨guarded, hguarded, hlabel, hneeds⟩ := needs_of_mem_schedule (hmade.subset hc)
    rw [← hlabel]
    refine narrow_bodies guarded hguarded ?_
    intro cap hcap hwide
    have hgrants := wide_of_mem_detect (hneeds guarded hguarded hlabel cap hcap).1 hwide
    obtain hunused | hmissing := hstate
    · rw [hgrants.used] at hunused
      cases hunused
    · exact hmissing hgrants.kept
  · intro c hc family hfamily htitle guarded hguarded hlabel
    obtain ⟨-, -, -, hneeds⟩ := needs_of_mem_schedule (hmade.subset hc)
    obtain ⟨cap, hcap, hwidest⟩ := widest_families family hfamily htitle guarded hguarded
    have hmem : guarded ∈ guardedBodies := List.mem_flatMap.mpr ⟨family, hfamily, hguarded⟩
    obtain ⟨hreached, hgrants⟩ :=
      widest_of_mem_detect (hneeds guarded hmem hlabel cap hcap).1 hwidest
    exact ⟨hgrants.used, hreached, hgrants.kept⟩
  · intro t ht c hc family hfamily guarded hguarded hlabel cap hcap
    obtain ⟨-, -, -, hneeds⟩ := needs_of_mem_schedule (hmade.subset hc)
    have hmem : guarded ∈ guardedBodies := List.mem_flatMap.mpr ⟨family, hfamily, hguarded⟩
    exact Nat.not_le_of_lt ((hneeds guarded hmem hlabel cap hcap).2 t ht)

end Host

end OpTiming
