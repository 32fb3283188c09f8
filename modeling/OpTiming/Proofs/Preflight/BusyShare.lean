import OpTiming.Proofs.Preflight.Isolation
import OpTiming.Proofs.Ratio

/-!
# How busy a sibling was

The busy share of a processor is what it gained of busy time between two readings, over what it gained of all
time.  Of one reading the busy time is a part, but the gains of two readings are another matter: time that was
not busy is counted by itself, and the counter of waiting time may fall.  Then the busy time gains more than all
time does, and the share of it is more than the whole.  Short of that it is at most one.

* **`idleTime`** — the time of a line that was not busy.
* **`Shares`** — a share, and the counts of the two lines that it comes from.
* **`busyFraction_of_counts`** — the share is a part of the whole iff the idle time did not fall.
-/

namespace OpTiming.Preflight

namespace CpuTimes

/-- Idle and waiting time, the fourth and the fifth count of a line. -/
def idleTime (counts : List UInt64) : Nat := exactSum ((counts.drop 3).take 2)

/-- All time of a line. -/
def allTime (counts : List UInt64) : Nat := exactSum (counts.take 8)

/-- A share of the time between two lines: a gain of busy time over a gain of all time that is not zero.  The
gain of busy time is the gain of all time without that of idle time; it is a part of the whole iff the idle time
did not fall, and then the share is at most one. -/
def Shares (counts counts' : List UInt64) (share : Float) : Prop :=
  ∃ busy all : UInt64, share = busy.toFloat / all.toFloat ∧ 0 < all ∧
    all.toNat = allTime counts' - allTime counts ∧
    busy.toNat = all.toNat + idleTime counts - idleTime counts' ∧
    (busy ≤ all ↔ idleTime counts ≤ idleTime counts') ∧
    (idleTime counts ≤ idleTime counts' → share ≤ 1.0)

variable {counts counts' : List UInt64} {before after : CpuTimes}

lemma busyFraction_eq_zero (h : after.total.toNat ≤ before.total.toNat) : busyFraction before after = 0.0 := by
  have hzero : saturatingSub after.total before.total = 0 := by
    rw [← UInt64.toNat_inj, toNat_saturatingSub]
    exact Nat.sub_eq_zero_of_le h
  rw [busyFraction, if_pos hzero]

lemma gained_busy (hbefore : Tallies counts before) (hafter : Tallies counts' after)
    (h : before.total.toNat ≤ after.total.toNat) : (saturatingSub after.busy before.busy).toNat =
      (saturatingSub after.total before.total).toNat + idleTime counts - idleTime counts' := by
  have hidle : before.busy.toNat + idleTime counts = before.total.toNat := hbefore.idle
  have hidle' : after.busy.toNat + idleTime counts' = after.total.toNat := hafter.idle
  -- neither difference is cut off unless the busy time fell, and then both sides are zero
  rw [toNat_saturatingSub, toNat_saturatingSub]
  omega

/-- **The share of two tallied lines**, if all time grew between them. -/
lemma shares_busyFraction (hbefore : Tallies counts before) (hafter : Tallies counts' after)
    (h : before.total.toNat < after.total.toNat) : Shares counts counts' (busyFraction before after) := by
  have hall : (saturatingSub after.total before.total).toNat = after.total.toNat - before.total.toNat :=
    toNat_saturatingSub ..
  have hpos : 0 < saturatingSub after.total before.total := by
    rw [UInt64.lt_iff_toNat_lt, hall]
    exact Nat.sub_pos_of_lt h
  have hbusy := gained_busy hbefore hafter h.le
  have hshare : busyFraction before after =
      (saturatingSub after.busy before.busy).toFloat / (saturatingSub after.total before.total).toFloat := by
    rw [busyFraction, if_neg (UInt64.ne_of_lt hpos).symm]
  have hpart : saturatingSub after.busy before.busy ≤ saturatingSub after.total before.total ↔
      idleTime counts ≤ idleTime counts' := by
    rw [UInt64.le_iff_toNat_le, hbusy]
    omega
  refine ⟨saturatingSub after.busy before.busy, saturatingSub after.total before.total, hshare, hpos, ?_, hbusy,
    hpart, fun hidle => ?_⟩
  · rw [hall, hbefore.total, hafter.total, allTime, allTime]
  · rw [hshare]
    exact Ratio.toFloat_div_toFloat_le_one (hpart.mpr hidle) hpos

variable {first second : String} {cpu : UInt64}

/-- **The busy share** of a processor, from the counts on its line in two texts. -/
lemma busyFraction_of_counts (hbefore : parse? first cpu = .ok (some before))
    (hafter : parse? second cpu = .ok (some after)) :
    ∃ counts counts', IsCounts first cpu counts ∧ IsCounts second cpu counts' ∧
      (allTime counts' ≤ allTime counts → busyFraction before after = 0.0) ∧
      (allTime counts < allTime counts' → Shares counts counts' (busyFraction before after)) := by
  obtain ⟨counts, hcounts, -, htallies⟩ := parse?_eq_some_iff.mp hbefore
  obtain ⟨counts', hcounts', -, htallies'⟩ := parse?_eq_some_iff.mp hafter
  refine ⟨counts, counts', hcounts, hcounts', fun hle => ?_, fun hlt => ?_⟩
  · rw [allTime, allTime, ← htallies.total, ← htallies'.total] at hle
    exact busyFraction_eq_zero hle
  · rw [allTime, allTime, ← htallies.total, ← htallies'.total] at hlt
    exact shares_busyFraction htallies htallies' hlt

end CpuTimes

open CpuTimes (IsCounts Shares allTime)

lemma timesIn_eq_some {cpu : UInt64} {r : Reading} {times : CpuTimes} (h : timesIn cpu r = .ok (some times)) :
    ∃ text, r = .text text ∧ CpuTimes.parse? text cpu = .ok (some times) := by
  cases r with
  | text text => exact ⟨text, rfl, h⟩
  | missing => cases h
  | failed reason => cases h

lemma not_threshold_lt_zero : ¬ siblingThreshold < 0.0 := by decide +kernel

variable {core : UInt64} {f : Files} {warnings : List Warning}

/-- **A busy sibling** is reported with the share of its lines in the two readings of the times. -/
lemma shares_of_busySibling {core' other : UInt64} {share : Float} (hrun : ((coreChecks core).run f).1 = .ok warnings)
    (hwarning : .busySibling core' other share ∈ warnings) :
    core' = core ∧ IsSibling core f other ∧ siblingThreshold < share ∧
      ∃ first second counts counts', f.reading timesPath = .text first ∧ f.secondReading timesPath = .text second ∧
        IsCounts first other counts ∧ IsCounts second other counts' ∧ Shares counts counts' share := by
  obtain ⟨hcore, hother, before, after, hbefore, hafter, rfl, hshare⟩ := busySibling_of_mem hrun hwarning
  obtain ⟨first, hfirst, hbefore⟩ := timesIn_eq_some hbefore
  obtain ⟨second, hsecond, hafter⟩ := timesIn_eq_some hafter
  obtain ⟨counts, counts', hcounts, hcounts', hzero, hshares⟩ := CpuTimes.busyFraction_of_counts hbefore hafter
  -- where no time was counted the share is zero, and no zero is warned of
  have hgrew : allTime counts < allTime counts' := by
    refine Nat.lt_of_not_le fun hle => ?_
    rw [hzero hle] at hshare
    exact not_threshold_lt_zero hshare
  exact ⟨hcore, hother, hshare, first, second, counts, counts', hfirst, hsecond, hcounts, hcounts', hshares hgrew⟩

/-- **The busy share of a processor.**  Between two texts that give its times, the share is zero if all time did
not grow, and nothing is divided.  Otherwise it is the busy time gained over all time gained.  The busy time gained
is all time gained without the idle time gained; so it is a part of all time iff the idle time did not fall, and
then the share is at most one.  If it fell, the share counts the fall on top of the whole.  A sibling that is
reported as busy is the core's own, and the share it is reported with is of this kind, read off the two readings of
the times. -/
theorem busy_share_of_counts (cpu : UInt64) :
    (∀ first second before after, CpuTimes.parse? first cpu = .ok (some before) →
      CpuTimes.parse? second cpu = .ok (some after) → ∃ counts counts',
        IsCounts first cpu counts ∧ IsCounts second cpu counts' ∧
          (allTime counts' ≤ allTime counts → CpuTimes.busyFraction before after = 0.0) ∧
          (allTime counts < allTime counts' → Shares counts counts' (CpuTimes.busyFraction before after))) ∧
      ∀ core f warnings core' share, ((coreChecks core).run f).1 = .ok warnings →
        .busySibling core' cpu share ∈ warnings →
          core' = core ∧ IsSibling core f cpu ∧ siblingThreshold < share ∧ ∃ first second counts counts',
            f.reading timesPath = .text first ∧ f.secondReading timesPath = .text second ∧
              IsCounts first cpu counts ∧ IsCounts second cpu counts' ∧ Shares counts counts' share :=
  ⟨fun _ _ _ _ hbefore hafter => CpuTimes.busyFraction_of_counts hbefore hafter,
    fun _ _ _ _ _ hrun hwarning => shares_of_busySibling hrun hwarning⟩

/-- The files of a core with a sibling, and the sibling's line in each of the two readings of the times. -/
def siblingFiles (first second : String) : Files :=
  .ofList [(siblingsPath 0, [.gives (.text "0,4\n")]),
    (timesPath, [.gives (.text first), .gives (.text second)])]

/-- Half of the time was busy: the idle time grew as much as the busy time. -/
theorem busy_share_of_half :
    ((coreChecks 0).run (siblingFiles "cpu4 100 0 0 900\n" "cpu4 150 0 0 950\n")).1.toOption =
        some [.busySibling 0 4 0.5] ∧
      ∃ counts counts', IsCounts "cpu4 100 0 0 900\n" 4 counts ∧ IsCounts "cpu4 150 0 0 950\n" 4 counts' ∧
        Shares counts counts' 0.5 := by
  have hfirst : (siblingFiles "cpu4 100 0 0 900\n" "cpu4 150 0 0 950\n").reading timesPath =
      .text "cpu4 100 0 0 900\n" := by decide +kernel
  have hsecond : (siblingFiles "cpu4 100 0 0 900\n" "cpu4 150 0 0 950\n").secondReading timesPath =
      .text "cpu4 150 0 0 950\n" := by decide +kernel
  have hfound : ((coreChecks 0).run (siblingFiles "cpu4 100 0 0 900\n" "cpu4 150 0 0 950\n")).1.toOption =
      some [.busySibling 0 4 0.5] := by decide +kernel
  refine ⟨hfound, ?_⟩
  rcases hrun : ((coreChecks 0).run (siblingFiles "cpu4 100 0 0 900\n" "cpu4 150 0 0 950\n")).1 with fault | warnings
  · rw [hrun] at hfound
    cases hfound
  · rw [hrun] at hfound
    obtain rfl := Option.some.inj hfound
    obtain ⟨-, -, -, first, second, counts, counts', hfirst', hsecond', hcounts, hcounts', hshares⟩ :=
      (busy_share_of_counts 4).2 _ _ _ _ _ hrun List.mem_cons_self
    cases hfirst.symm.trans hfirst'
    cases hsecond.symm.trans hsecond'
    exact ⟨counts, counts', hcounts, hcounts', hshares⟩

/-- **More than the whole.**  A sibling was busy for five ticks more, and of its waiting time three were taken
back, so all time grew by two: the check reports it as busy for two and a half times the time there was. -/
theorem busy_share_of_falling_wait :
    ∃ before after,
      CpuTimes.parse? "cpu4 100 0 0 900 50 0 0 0\n" 4 = .ok (some before) ∧
      CpuTimes.parse? "cpu4 105 0 0 900 47 0 0 0\n" 4 = .ok (some after) ∧
      0 < saturatingSub after.total before.total ∧
      ¬ saturatingSub after.busy before.busy ≤ saturatingSub after.total before.total ∧
      1.0 < CpuTimes.busyFraction before after ∧
      ((coreChecks 0).run (siblingFiles "cpu4 100 0 0 900 50 0 0 0\n" "cpu4 105 0 0 900 47 0 0 0\n")).1.toOption =
        some [.busySibling 0 4 2.5] :=
  ⟨⟨100, 1050⟩, ⟨105, 1052⟩, by decide +kernel, by decide +kernel, by decide +kernel, by decide +kernel,
    by decide +kernel, by decide +kernel⟩

end OpTiming.Preflight
