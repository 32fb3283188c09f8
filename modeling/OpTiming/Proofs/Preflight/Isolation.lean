import OpTiming.Proofs.Preflight.Checks
import OpTiming.Proofs.Preflight.CpuList

/-!
# What the checks of a core look at

The checks of a core are done one after the other on the same files, and each of them may give up early.
Neither lets one check disturb another: a check reads paths of its own, a reading uses up nothing but the
attempts on its path, and giving up ends no more than the check itself.  The findings can therefore be told
check by check, each from the readings of that check alone.

* **`Check`**, **`ofCheck`** — which check gives a warning, and the warnings that one check gave.
* **`SameFor`** — two states of the files in which a check of a core looks at the same.  Of the processor
  times that is one line, the sibling's, at each of the two readings.
* **`checks_are_isolated`** — equal views give equal warnings, check by check.
-/

namespace OpTiming.Preflight

open Inspection

variable {core : UInt64} {f g : Files} {warnings : List Warning}

/-! ## Warnings and the checks that give them -/

inductive Check
  | governor | clockRate | sibling | timer
  deriving DecidableEq, Repr

deriving instance DecidableEq for Warning

namespace Warning

def check : Warning → Check
  | governorNotPerformance .. | governorUnreadable .. => .governor
  | clockBelowMax .. => .clockRate
  | busySibling .. => .sibling
  | coarseTimer .. => .timer

/-- The core that a warning is about, if it is about one. -/
def core? : Warning → Option UInt64
  | governorNotPerformance core _ | governorUnreadable core _ => some core
  | clockBelowMax core _ _ => some core
  | busySibling core _ _ => some core
  | coarseTimer .. => none

end Warning

def ofCheck (check : Check) (warnings : List Warning) : List Warning :=
  warnings.filter fun w => w.check = check

lemma ofCheck_append (check : Check) (warnings warnings' : List Warning) :
    ofCheck check (warnings ++ warnings') = ofCheck check warnings ++ ofCheck check warnings' :=
  List.filter_append ..

/-- What one check gave is its own, and no other check's. -/
lemma ofCheck_of_forall {check : Check} (h : ∀ w ∈ warnings, w.check = check) (other : Check) :
    ofCheck other warnings = if check = other then warnings else [] := by
  split
  · next heq =>
    rw [ofCheck, List.filter_eq_self]
    exact fun w hw => decide_eq_true ((h w hw).trans heq)
  · next hne =>
    rw [ofCheck, List.filter_eq_nil_iff]
    intro w hw
    rw [h w hw]
    simpa using hne

lemma ofCheck_parts (governor clock sibling : Option Warning) (hgovernor : ∀ w ∈ governor, w.check = .governor)
    (hclock : ∀ w ∈ clock, w.check = .clockRate) (hsibling : ∀ w ∈ sibling, w.check = .sibling) (check : Check) :
    ofCheck check (governor.toList ++ clock.toList ++ sibling.toList) = match check with
      | .governor => governor.toList
      | .clockRate => clock.toList
      | .sibling => sibling.toList
      | .timer => [] := by
  rw [ofCheck_append, ofCheck_append,
    ofCheck_of_forall fun w hw => hgovernor w (Option.mem_toList.mp hw),
    ofCheck_of_forall fun w hw => hclock w (Option.mem_toList.mp hw),
    ofCheck_of_forall fun w hw => hsibling w (Option.mem_toList.mp hw)]
  cases check <;> simp

/-! ## What each check finds -/

lemma governorWarning?_spec {r : Reading} : ∀ w ∈ governorWarning? core r,
    w.check = .governor ∧ w.core? = some core := by
  intro w hw
  cases r with
  | text content =>
    simp only [governorWarning?] at hw
    split at hw
    · cases hw
    · cases hw
      exact ⟨rfl, rfl⟩
  | missing => cases hw
  | failed reason =>
    cases hw
    exact ⟨rfl, rfl⟩

lemma clockFound_spec {current max : Reading} : ∀ w ∈ clockFound core current max,
    w.check = .clockRate ∧ w.core? = some core := by
  intro w hw
  simp only [clockFound, Option.mem_def, Option.bind_eq_some_iff, clockWarning?] at hw
  obtain ⟨current, -, max, -, hwarning⟩ := hw
  split at hwarning
  · cases hwarning
  · cases hwarning
    exact ⟨rfl, rfl⟩

/-- The sibling of a core: the first processor on the list of the core that is not the core itself. -/
def IsSibling (core : UInt64) (f : Files) (other : UInt64) : Prop :=
  ∃ content before after, f.reading (siblingsPath core) = .text content ∧
    CpuList.parse? content = some (before ++ other :: after) ∧ other ≠ core ∧ ∀ cpu ∈ before, cpu = core

lemma isSibling_iff {other : UInt64} :
    IsSibling core f other ↔ siblingIn? core (f.reading (siblingsPath core)) = some other := by
  rw [IsSibling, siblingIn?, Option.bind_eq_some_iff]
  cases f.reading (siblingsPath core) with
  | text content =>
    simp only [Reading.text?, Option.bind_some, Reading.text.injEq, CpuList.siblingOf?_eq_some_iff]
    constructor
    · rintro ⟨_, before, after, rfl, hcpus, hother⟩
      exact ⟨_, hcpus, before, after, rfl, hother⟩
    · rintro ⟨cpus, hcpus, before, after, rfl, hother⟩
      exact ⟨content, before, after, rfl, hcpus, hother⟩
  | missing => simp [Reading.text?]
  | failed reason => simp [Reading.text?]

lemma siblingOutcome_spec {listed first second : Reading} {found : Option Warning}
    (h : siblingOutcome core listed first second = .ok found) : ∀ w ∈ found,
    w.check = .sibling ∧ w.core? = some core ∧ ∃ other before after,
      w = .busySibling core other (CpuTimes.busyFraction before after) ∧ siblingIn? core listed = some other ∧
        timesIn other first = .ok (some before) ∧ timesIn other second = .ok (some after) ∧
        siblingThreshold < CpuTimes.busyFraction before after := by
  intro w hw
  rw [siblingOutcome] at h
  split at h
  · cases h
    cases hw
  · next other hother =>
    split at h
    · cases h
    · cases h
      cases hw
    · next before hbefore =>
      split at h
      · cases h
      · cases h
        cases hw
      · next after hafter =>
        cases h
        simp only [siblingWarning?] at hw
        split at hw
        · next hbusy =>
          cases hw
          exact ⟨rfl, rfl, other, before, after, rfl, hother, hbefore, hafter, hbusy⟩
        · cases hw

/-! ## Views -/

/-- The words after the label on a processor's line, in a reading that has such a line. -/
def HasLine (r : Reading) (cpu : UInt64) (words : List (List Char)) : Prop :=
  ∃ content, r = .text content ∧ CpuTimes.IsLine content cpu words

/-- Two readings of the times show the same line for a processor, or both show none. -/
def SameLine (cpu : UInt64) (r r' : Reading) : Prop := ∀ words, HasLine r cpu words ↔ HasLine r' cpu words

/-- What a check of a core looks at is the same in two states of the files. -/
def SameFor (core : UInt64) (f g : Files) : Check → Prop
  | .governor => f.reading (governorPath core) = g.reading (governorPath core)
  | .clockRate => f.reading (currentRatePath core) = g.reading (currentRatePath core) ∧
      f.reading (maxRatePath core) = g.reading (maxRatePath core)
  | .sibling => f.reading (siblingsPath core) = g.reading (siblingsPath core) ∧
      ∀ other, IsSibling core f other → SameLine other (f.reading timesPath) (g.reading timesPath) ∧
        SameLine other (f.secondReading timesPath) (g.secondReading timesPath)
  | .timer => True

/-- The words after the label on a processor's line, if a reading has such a line. -/
def wordsIn? (cpu : UInt64) (r : Reading) : Option (List (List Char)) :=
  r.text?.bind fun content => CpuTimes.wordsAfter? (CpuTimes.label cpu) content.toList

lemma wordsIn?_eq_some_iff {cpu : UInt64} {r : Reading} {words : List (List Char)} :
    wordsIn? cpu r = some words ↔ HasLine r cpu words := by
  cases r with
  | text content => simp [wordsIn?, HasLine, Reading.text?, CpuTimes.wordsAfter?_eq_some_iff]
  | missing => simp [wordsIn?, HasLine, Reading.text?]
  | failed reason => simp [wordsIn?, HasLine, Reading.text?]

lemma sameLine_iff {cpu : UInt64} {r r' : Reading} : SameLine cpu r r' ↔ wordsIn? cpu r = wordsIn? cpu r' := by
  rw [Option.ext_iff]
  simp only [SameLine, wordsIn?_eq_some_iff]

/-- With a known sibling there is one line to look at in each reading. -/
lemma sameFor_sibling {other : UInt64} (hother : siblingIn? core (f.reading (siblingsPath core)) = some other)
    (hlisted : f.reading (siblingsPath core) = g.reading (siblingsPath core))
    (hfirst : wordsIn? other (f.reading timesPath) = wordsIn? other (g.reading timesPath))
    (hsecond : wordsIn? other (f.secondReading timesPath) = wordsIn? other (g.secondReading timesPath)) :
    SameFor core f g .sibling := by
  refine ⟨hlisted, fun other' hother' => ?_⟩
  obtain rfl : other = other' := Option.some.inj (hother.symm.trans (isSibling_iff.mp hother'))
  exact ⟨sameLine_iff.mpr hfirst, sameLine_iff.mpr hsecond⟩

/-- Times are read from the words of one line. -/
lemma timesIn_eq (cpu : UInt64) (r : Reading) :
    timesIn cpu r = ((wordsIn? cpu r).bind fun words => words.mapM Text.Numeral.readUInt64?).elim (.ok none)
      CpuTimes.ofCounts? := by
  cases r with
  | text content =>
      show CpuTimes.parse? content cpu = ((CpuTimes.wordsAfter? (CpuTimes.label cpu) content.toList).bind
        fun words => words.mapM Text.Numeral.readUInt64?).elim (.ok none) CpuTimes.ofCounts?
      rw [CpuTimes.parse?]
      cases (CpuTimes.wordsAfter? (CpuTimes.label cpu) content.toList).bind fun words =>
        words.mapM Text.Numeral.readUInt64? with
      | some counts => rfl
      | none => rfl
  | missing => rfl
  | failed reason => rfl

lemma timesIn_congr {cpu : UInt64} {r r' : Reading} (h : SameLine cpu r r') : timesIn cpu r = timesIn cpu r' := by
  rw [timesIn_eq, timesIn_eq, sameLine_iff.mp h]

lemma siblingOutcome_congr (h : SameFor core f g .sibling) :
    siblingOutcome core (f.reading (siblingsPath core)) (f.reading timesPath) (f.secondReading timesPath) =
      siblingOutcome core (g.reading (siblingsPath core)) (g.reading timesPath) (g.secondReading timesPath) := by
  obtain ⟨hlisted, hlines⟩ := h
  rw [← hlisted, siblingOutcome, siblingOutcome]
  cases hother : siblingIn? core (f.reading (siblingsPath core)) with
  | none => rfl
  | some other =>
    obtain ⟨hfirst, hsecond⟩ := hlines other (isSibling_iff.mpr hother)
    simp only [timesIn_congr hfirst, timesIn_congr hsecond]

/-! ## The warnings, check by check -/

lemma ofCheck_of_run (h : ((coreChecks core).run f).1 = .ok warnings) :
    ∃ found, siblingOutcome core (f.reading (siblingsPath core)) (f.reading timesPath)
        (f.secondReading timesPath) = .ok found ∧
      ofCheck .governor warnings = (governorWarning? core (f.reading (governorPath core))).toList ∧
      ofCheck .clockRate warnings =
        (clockFound core (f.reading (currentRatePath core)) (f.reading (maxRatePath core))).toList ∧
      ofCheck .sibling warnings = found.toList ∧ ofCheck .timer warnings = [] ∧
      warnings = ofCheck .governor warnings ++ ofCheck .clockRate warnings ++ ofCheck .sibling warnings := by
  rw [run_coreChecks] at h
  rcases hsibling : siblingOutcome core (f.reading (siblingsPath core)) (f.reading timesPath)
    (f.secondReading timesPath) with fault | found
  · rw [hsibling] at h
    cases h
  · rw [hsibling] at h
    obtain rfl := Except.ok.inj h
    have hparts := ofCheck_parts (governorWarning? core (f.reading (governorPath core)))
      (clockFound core (f.reading (currentRatePath core)) (f.reading (maxRatePath core))) found
      (fun w hw => (governorWarning?_spec w hw).1) (fun w hw => (clockFound_spec w hw).1)
      (fun w hw => (siblingOutcome_spec hsibling w hw).1)
    refine ⟨found, rfl, hparts .governor, hparts .clockRate, hparts .sibling, hparts .timer, ?_⟩
    rw [hparts .governor, hparts .clockRate, hparts .sibling]

/-- A busy sibling is the core's own, with the share of its times in the two readings. -/
lemma busySibling_of_mem {core' other : UInt64} {share : Float} (hrun : ((coreChecks core).run f).1 = .ok warnings)
    (hwarning : .busySibling core' other share ∈ warnings) :
    core' = core ∧ IsSibling core f other ∧ ∃ before after,
      timesIn other (f.reading timesPath) = .ok (some before) ∧
        timesIn other (f.secondReading timesPath) = .ok (some after) ∧
        share = CpuTimes.busyFraction before after ∧ siblingThreshold < share := by
  obtain ⟨found, hfound, -, -, hsibling, -⟩ := ofCheck_of_run hrun
  have hown : Warning.busySibling core' other share ∈ ofCheck .sibling warnings :=
    List.mem_filter.mpr ⟨hwarning, rfl⟩
  rw [hsibling, Option.mem_toList] at hown
  obtain ⟨-, -, other', before, after, heq, hother, hbefore, hafter, hshare⟩ := siblingOutcome_spec hfound _ hown
  cases heq
  exact ⟨rfl, isSibling_iff.mpr hother, before, after, hbefore, hafter, rfl, hshare⟩

lemma ofCheck_congr {warnings' : List Warning} (hf : ((coreChecks core).run f).1 = .ok warnings)
    (hg : ((coreChecks core).run g).1 = .ok warnings') {check : Check} (h : SameFor core f g check) :
    ofCheck check warnings = ofCheck check warnings' := by
  obtain ⟨found, hfound, hgovernor, hclock, hsibling, htimer, -⟩ := ofCheck_of_run hf
  obtain ⟨found', hfound', hgovernor', hclock', hsibling', htimer', -⟩ := ofCheck_of_run hg
  cases check with
  | governor => rw [hgovernor, hgovernor', show f.reading (governorPath core) = _ from h]
  | clockRate => rw [hclock, hclock', h.1, h.2]
  | sibling =>
    rw [siblingOutcome_congr h, hfound', Except.ok.injEq] at hfound
    rw [hsibling, hsibling', hfound]
  | timer => rw [htimer, htimer']

lemma run_coreChecks_congr (h : ∀ check, SameFor core f g check) :
    ((coreChecks core).run f).1 = ((coreChecks core).run g).1 := by
  have hgovernor : f.reading (governorPath core) = g.reading (governorPath core) := h .governor
  have hclock := h .clockRate
  rw [run_coreChecks, run_coreChecks, siblingOutcome_congr (h .sibling), hgovernor, hclock.1, hclock.2]

lemma not_timesOverflow_of_isOk (h : ((coreChecks core).run f).1.isOk = true) : ¬ TimesOverflow core f := by
  intro hoverflow
  rw [(coreChecks_outcome core f).1 hoverflow] at h
  cases h

/-- **The checks of a core are isolated.**  What they find depends on the core's own files and on its sibling's
line in the two readings of the times.  Short of counters that do not add up, they find at most one thing each,
in their order, all of it about the core; and a sibling that is named is the one that the core's list gives.
Whatever the files of one check hold, and whether they are there at all, the warnings of every other check stay
the same. -/
theorem checks_are_isolated (core : UInt64) :
    (∀ f g, (∀ check, SameFor core f g check) →
        ((coreChecks core).run f).1 = ((coreChecks core).run g).1) ∧
      (∀ f, ¬ TimesOverflow core f → ∃ warnings, ((coreChecks core).run f).1 = .ok warnings ∧
        warnings = ofCheck .governor warnings ++ ofCheck .clockRate warnings ++ ofCheck .sibling warnings ∧
        (∀ check, (ofCheck check warnings).length ≤ 1) ∧ (∀ w ∈ warnings, w.core? = some core) ∧
        ∀ other busy, .busySibling core other busy ∈ warnings → IsSibling core f other) ∧
      ∀ f g warnings warnings', ((coreChecks core).run f).1 = .ok warnings →
        ((coreChecks core).run g).1 = .ok warnings' →
          ∀ check, SameFor core f g check → ofCheck check warnings = ofCheck check warnings' := by
  refine ⟨fun f g h => run_coreChecks_congr h, fun f h => ?_,
    fun f g warnings warnings' hf hg check h => ofCheck_congr hf hg h⟩
  obtain ⟨warnings, hrun⟩ := (coreChecks_outcome core f).2 h
  obtain ⟨found, hfound, hgovernor, hclock, hsibling, htimer, hwarnings⟩ := ofCheck_of_run hrun
  refine ⟨warnings, hrun, hwarnings, ?_, ?_, ?_⟩
  · intro check
    cases check with
    | governor => rw [hgovernor]; exact Option.length_toList_le
    | clockRate => rw [hclock]; exact Option.length_toList_le
    | sibling => rw [hsibling]; exact Option.length_toList_le
    | timer => rw [htimer]; exact Nat.zero_le 1
  · intro w hw
    rw [hwarnings, hgovernor, hclock, hsibling, List.mem_append, List.mem_append] at hw
    obtain (hw | hw) | hw := hw
    · exact (governorWarning?_spec w (Option.mem_toList.mp hw)).2
    · exact (clockFound_spec w (Option.mem_toList.mp hw)).2
    · exact (siblingOutcome_spec hfound w (Option.mem_toList.mp hw)).2.1
  · exact fun other busy hw => (busySibling_of_mem hrun hw).2.1

/-- The files of a slow core with a busy sibling: what its governor says, and what stands before the sibling's
line in each reading of the times, is left open. -/
def slowFiles (governor : Reading) (others : String) : Files :=
  .ofList [(governorPath 0, [.gives governor]), (currentRatePath 0, [.gives (.text "1500000\n")]),
    (maxRatePath 0, [.gives (.text "3000000\n")]), (siblingsPath 0, [.gives (.text "0,4\n")]),
    (timesPath, [.gives (.text (others ++ "cpu4 100 0 0 900\n")), .gives (.text (others ++ "cpu4 150 0 0 950\n"))])]

/-- Times of other processors change nothing, and a governor that cannot be read changes its own warning. -/
theorem checks_of_slow_core :
    ((coreChecks 0).run (slowFiles (.text "powersave\n") "")).1 =
        ((coreChecks 0).run (slowFiles (.text "powersave\n") "cpu 9 9 9 9\ncpu1 8 8\n")).1 ∧
      ∃ warnings warnings',
        ((coreChecks 0).run (slowFiles (.text "powersave\n") "")).1 = .ok warnings ∧
        ((coreChecks 0).run (slowFiles (.failed "denied") "cpu 9 9 9 9\n")).1 = .ok warnings' ∧
        warnings = [.governorNotPerformance 0 "powersave", .clockBelowMax 0 1500000 3000000,
          .busySibling 0 4 0.5] ∧
        ofCheck .clockRate warnings = ofCheck .clockRate warnings' ∧
        ofCheck .sibling warnings = ofCheck .sibling warnings' := by
  have hsibling : siblingIn? 0 ((slowFiles (.text "powersave\n") "").reading (siblingsPath 0)) = some 4 := by
    decide +kernel
  have hsame : ∀ check, SameFor 0 (slowFiles (.text "powersave\n") "")
      (slowFiles (.text "powersave\n") "cpu 9 9 9 9\ncpu1 8 8\n") check := by
    intro check
    cases check with
    | governor =>
      show _ = _
      decide +kernel
    | clockRate => exact ⟨by decide +kernel, by decide +kernel⟩
    | sibling => exact sameFor_sibling hsibling (by decide +kernel) (by decide +kernel) (by decide +kernel)
    | timer => exact trivial
  have hclock : SameFor 0 (slowFiles (.text "powersave\n") "") (slowFiles (.failed "denied") "cpu 9 9 9 9\n")
      .clockRate := ⟨by decide +kernel, by decide +kernel⟩
  have htimes : SameFor 0 (slowFiles (.text "powersave\n") "") (slowFiles (.failed "denied") "cpu 9 9 9 9\n")
      .sibling := sameFor_sibling hsibling (by decide +kernel) (by decide +kernel) (by decide +kernel)
  obtain ⟨heq, hruns, hisolated⟩ := checks_are_isolated 0
  obtain ⟨warnings, hrun, -⟩ := hruns (slowFiles (.text "powersave\n") "")
    (not_timesOverflow_of_isOk (by decide +kernel))
  obtain ⟨warnings', hrun', -⟩ := hruns (slowFiles (.failed "denied") "cpu 9 9 9 9\n")
    (not_timesOverflow_of_isOk (by decide +kernel))
  have hwarnings : ((coreChecks 0).run (slowFiles (.text "powersave\n") "")).1.toOption =
      some [.governorNotPerformance 0 "powersave", .clockBelowMax 0 1500000 3000000, .busySibling 0 4 0.5] := by
    decide +kernel
  rw [hrun] at hwarnings
  exact ⟨heq _ _ hsame, warnings, warnings', hrun, hrun', Option.some.inj hwarnings,
    hisolated _ _ _ _ hrun hrun' _ hclock, hisolated _ _ _ _ hrun hrun' _ htimes⟩

end OpTiming.Preflight
