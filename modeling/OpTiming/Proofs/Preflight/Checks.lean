import OpTiming.Preflight.Checks
import OpTiming.Proofs.Files
import OpTiming.Proofs.Preflight.CpuTimes

/-!
# How the checks of a core end

A check warns of something or of nothing; whatever its files hold, it has no third way to end but one.
The exception is the sibling check, which adds up processor times and meets a fault where they do not add
up.  To say exactly when, the readings that this check takes have to be told from the state of the files
before any check: the other checks read other paths, and leave its paths alone.

* **`ReadsOnly`** — an inspection leaves the attempts on all paths but some as they were; this is closed under
  sequence.
* **`TimesOverflow`** — what the files hold where the sibling check meets its fault: a sibling is listed,
  and the first reading of the times overflows for it, or the first gives times and the second overflows.
* **`run_coreChecks`** — the findings of a core from the six readings that they depend on.
* **`coreChecks_outcome`** — the checks of a core give their findings unless their times overflow.
-/

namespace OpTiming.Preflight

variable {α β : Type}

/-! ## Running an inspection -/

namespace Inspection

lemma run_bind (inspection : Inspection α) (next : α → Inspection β) (f : Files) :
    (inspection >>= next).run f = match inspection.run f with
      | (.ok x, after) => (next x).run after
      | (.error fault, after) => (.error fault, after) := by
  show (StateT.bind inspection (ExceptT.bindCont next)) f = _
  rcases h : inspection f with ⟨outcome, after⟩
  cases outcome with
  | ok x => simp only [StateT.bind, h, ExceptT.bindCont, ExceptT.run]; rfl
  | error fault => simp only [StateT.bind, h, ExceptT.bindCont, ExceptT.run]; rfl

lemma run_readFile (path : String) (f : Files) :
    (readFile path).run f = (.ok (f.reading path), (f.read path).2) := rfl

/-- However an inspection ends, the attempts on all paths but some are as they were before. -/
def ReadsOnly (paths : List String) (inspection : Inspection α) : Prop :=
  ∀ f, ∀ path ∉ paths, (inspection.run f).2.attempts path = f.attempts path

section ReadsOnly

variable {paths : List String}

lemma ReadsOnly.pure (x : α) : ReadsOnly paths (Pure.pure x) := fun _ _ _ => rfl

lemma ReadsOnly.readFile {path : String} (h : path ∈ paths) : ReadsOnly paths (readFile path) := by
  intro f other hother
  rw [run_readFile]
  refine Files.attempts_read_of_ne ?_ f
  rintro rfl
  exact hother h

lemma ReadsOnly.bind {inspection : Inspection α} {next : α → Inspection β} (h : ReadsOnly paths inspection)
    (hnext : ∀ x, ReadsOnly paths (next x)) : ReadsOnly paths (inspection >>= next) := by
  intro f path hpath
  have hfirst := h f path hpath
  rw [run_bind]
  rcases hrun : inspection.run f with ⟨fault | x, after⟩
  · rw [hrun] at hfirst
    exact hfirst
  · rw [hrun] at hfirst
    exact (hnext x after path hpath).trans hfirst

end ReadsOnly

end Inspection

open Inspection

/-! ## Paths -/

def governorPath (core : UInt64) : String := corePath core "cpufreq/scaling_governor"

def currentRatePath (core : UInt64) : String := corePath core "cpufreq/scaling_cur_freq"

def maxRatePath (core : UInt64) : String := corePath core "cpufreq/cpuinfo_max_freq"

def siblingsPath (core : UInt64) : String := corePath core "topology/thread_siblings_list"

/-- The paths that the checks of a core read before the one for siblings. -/
def ratePaths (core : UInt64) : List String := [governorPath core, currentRatePath core, maxRatePath core]

lemma corePath_ne {core : UInt64} {leaf leaf' : String} (h : leaf ≠ leaf') :
    corePath core leaf ≠ corePath core leaf' := by
  unfold corePath
  exact fun heq => h ((String.append_right_inj _).mp heq)

lemma corePath_ne_timesPath (core : UInt64) (leaf : String) : timesPath ≠ corePath core leaf := by
  unfold timesPath corePath
  intro h
  have hfirst := congrArg (fun path => path.toList[1]?) h
  simp only [String.toList_append, List.append_assoc] at hfirst
  cases hfirst

lemma siblingsPath_not_mem (core : UInt64) : siblingsPath core ∉ ratePaths core := by
  simp only [ratePaths, List.mem_cons, List.not_mem_nil, or_false, not_or]
  exact ⟨corePath_ne (by decide), corePath_ne (by decide), corePath_ne (by decide)⟩

lemma timesPath_not_mem (core : UInt64) : timesPath ∉ ratePaths core := by
  simp only [ratePaths, List.mem_cons, List.not_mem_nil, or_false, not_or]
  exact ⟨corePath_ne_timesPath core _, corePath_ne_timesPath core _, corePath_ne_timesPath core _⟩

/-! ## The checks that always end -/

/-- What the clock check finds in its two readings. -/
def clockFound (core : UInt64) (current max : Reading) : Option Warning :=
  (rateOf? current).bind fun current => (rateOf? max).bind (clockWarning? core current)

lemma run_governor (core : UInt64) (f : Files) :
    (governor core).run f = (.ok (governorWarning? core (f.reading (governorPath core))),
      (f.read (governorPath core)).2) := by
  rw [governor, run_bind, run_readFile]
  rfl

lemma run_clockRate (core : UInt64) (f : Files) :
    ((clockRate core).run f).1 = .ok (clockFound core (f.reading (currentRatePath core))
      (f.reading (maxRatePath core))) := by
  have hmax : (f.read (currentRatePath core)).2.reading (maxRatePath core) = f.reading (maxRatePath core) :=
    Files.reading_congr (Files.attempts_read_of_ne (corePath_ne (by decide)) f)
  rw [currentRatePath, maxRatePath] at hmax ⊢
  simp only [clockRate, run_bind, run_readFile, clockFound]
  cases rateOf? (f.reading (corePath core "cpufreq/scaling_cur_freq")) with
  | none => rfl
  | some current =>
    simp only [run_bind, run_readFile, hmax, Option.bind_some]
    cases rateOf? (f.reading (corePath core "cpufreq/cpuinfo_max_freq")) with
    | none => rfl
    | some max => rfl

lemma clockRate_readsOnly (core : UInt64) : ReadsOnly (ratePaths core) (clockRate core) := by
  refine (ReadsOnly.readFile (by simp [ratePaths, currentRatePath])).bind fun current => ?_
  cases rateOf? current with
  | none => exact ReadsOnly.pure _
  | some current =>
    refine (ReadsOnly.readFile (by simp [ratePaths, maxRatePath])).bind fun max => ?_
    cases rateOf? max with
    | none => exact ReadsOnly.pure _
    | some max => exact ReadsOnly.pure _

/-! ## The sibling check -/

/-- The sibling that a listing names. -/
def siblingIn? (core : UInt64) (listed : Reading) : Option UInt64 :=
  (listed.text?.bind CpuList.parse?).bind (CpuList.siblingOf? core)

/-- The times of a processor that a reading gives. -/
def timesIn (cpu : UInt64) : Reading → Except Fault (Option CpuTimes)
  | .text content => CpuTimes.parse? content cpu
  | .missing | .failed _ => .ok none

/-- A reading gives counts for a processor that cannot be added up in 64 bits. -/
def OverflowsIn (cpu : UInt64) (r : Reading) : Prop := ∃ text, r = .text text ∧ CpuTimes.Overflows text cpu

/-- The sibling check meets counts that cannot be added up. -/
def TimesOverflow (core : UInt64) (f : Files) : Prop :=
  ∃ other, siblingIn? core (f.reading (siblingsPath core)) = some other ∧
    (OverflowsIn other (f.reading timesPath) ∨
      (∃ before, timesIn other (f.reading timesPath) = .ok (some before)) ∧
        OverflowsIn other (f.secondReading timesPath))

lemma timesIn_of_overflows {cpu : UInt64} {r : Reading} (h : OverflowsIn cpu r) :
    timesIn cpu r = .error .addOverflow := by
  obtain ⟨text, rfl, htext⟩ := h
  exact CpuTimes.parse?_of_overflows htext

lemma timesIn_of_not_overflows {cpu : UInt64} {r : Reading} (h : ¬ OverflowsIn cpu r) :
    ∃ times, timesIn cpu r = .ok times := by
  cases r with
  | text content =>
    exact CpuTimes.parse?_of_not_overflows fun hoverflows => h ⟨content, rfl, hoverflows⟩
  | missing => exact ⟨none, rfl⟩
  | failed reason => exact ⟨none, rfl⟩

lemma run_timesNow (cpu : UInt64) (f : Files) :
    (timesNow cpu).run f = (timesIn cpu (f.reading timesPath), (f.read timesPath).2) := by
  rw [timesNow, run_bind, run_readFile]
  cases f.reading timesPath with
  | text content => rfl
  | missing => rfl
  | failed reason => rfl

/-- The outcome of the sibling check, from the three readings that it can take. -/
def siblingOutcome (core : UInt64) (listed first second : Reading) : Except Fault (Option Warning) :=
  match siblingIn? core listed with
  | none => .ok none
  | some other =>
    match timesIn other first with
    | .error fault => .error fault
    | .ok none => .ok none
    | .ok (some before) =>
      match timesIn other second with
      | .error fault => .error fault
      | .ok none => .ok none
      | .ok (some after) => .ok (siblingWarning? core other before after)

lemma run_sibling (core : UInt64) (f : Files) :
    ((sibling core).run f).1 = siblingOutcome core (f.reading (siblingsPath core)) (f.reading timesPath)
      (f.secondReading timesPath) := by
  have hfirst : ((f.read (siblingsPath core)).2).attempts timesPath = f.attempts timesPath :=
    Files.attempts_read_of_ne (corePath_ne_timesPath core _) f
  have hreading : ((f.read (siblingsPath core)).2).reading timesPath = f.reading timesPath :=
    Files.reading_congr hfirst
  have hsecond : ((((f.read (siblingsPath core)).2).read timesPath).2).reading timesPath =
      f.secondReading timesPath := by
    rw [Files.reading_read_self, Files.secondReading_congr hfirst]
  rw [siblingsPath] at hreading hsecond ⊢
  simp only [sibling, run_bind, run_readFile, siblingOutcome, siblingIn?]
  cases ((f.reading (corePath core "topology/thread_siblings_list")).text?.bind CpuList.parse?).bind
      (CpuList.siblingOf? core) with
  | none => rfl
  | some other =>
    simp only [run_bind, run_timesNow, hreading]
    rcases timesIn other (f.reading timesPath) with fault | _ | before
    · rfl
    · rfl
    · simp only [run_bind, run_timesNow, hsecond]
      rcases timesIn other (f.secondReading timesPath) with fault | _ | after
      · rfl
      · rfl
      · rfl

variable {core : UInt64} {f : Files}

lemma siblingOutcome_of_overflow (h : TimesOverflow core f) :
    siblingOutcome core (f.reading (siblingsPath core)) (f.reading timesPath) (f.secondReading timesPath) =
      .error .addOverflow := by
  obtain ⟨other, hother, hfirst | ⟨⟨before, hbefore⟩, hsecond⟩⟩ := h
  · rw [siblingOutcome, hother]
    simp only [timesIn_of_overflows hfirst]
  · rw [siblingOutcome, hother]
    simp only [hbefore, timesIn_of_overflows hsecond]

lemma siblingOutcome_of_no_overflow (h : ¬ TimesOverflow core f) :
    ∃ found, siblingOutcome core (f.reading (siblingsPath core)) (f.reading timesPath)
      (f.secondReading timesPath) = .ok found := by
  rw [siblingOutcome]
  rcases hother : siblingIn? core (f.reading (siblingsPath core)) with _ | other
  · exact ⟨none, rfl⟩
  · obtain ⟨times, htimes⟩ := timesIn_of_not_overflows fun hfirst => h ⟨other, hother, Or.inl hfirst⟩
    simp only [htimes]
    cases times with
    | none => exact ⟨none, rfl⟩
    | some before =>
      obtain ⟨times, hlater⟩ := timesIn_of_not_overflows fun hsecond =>
        h ⟨other, hother, Or.inr ⟨⟨before, htimes⟩, hsecond⟩⟩
      simp only [hlater]
      cases times with
      | none => exact ⟨none, rfl⟩
      | some after => exact ⟨_, rfl⟩

/-! ## All checks of a core -/

/-- **The findings of a core**, from the readings that they depend on. -/
lemma run_coreChecks (core : UInt64) (f : Files) :
    ((coreChecks core).run f).1 =
      (siblingOutcome core (f.reading (siblingsPath core)) (f.reading timesPath) (f.secondReading timesPath)).map
        fun found => (governorWarning? core (f.reading (governorPath core))).toList ++
          (clockFound core (f.reading (currentRatePath core)) (f.reading (maxRatePath core))).toList ++
          found.toList := by
  -- the governor's reading leaves the other paths alone, and those of the clock leave the sibling's
  have hgovernor : ∀ path, path ≠ governorPath core →
      (f.read (governorPath core)).2.attempts path = f.attempts path :=
    fun path hpath => Files.attempts_read_of_ne hpath f
  rcases hrun : (clockRate core).run (f.read (governorPath core)).2 with ⟨outcome, after⟩
  have hclock := run_clockRate core (f.read (governorPath core)).2
  rw [hrun] at hclock
  subst hclock
  have hafter : ∀ path, path ∉ ratePaths core → after.attempts path = f.attempts path := by
    intro path hpath
    have hkept := clockRate_readsOnly core (f.read (governorPath core)).2 path hpath
    rw [hrun] at hkept
    exact hkept.trans (hgovernor path fun heq => hpath (heq ▸ List.mem_cons_self ..))
  have htimes := hafter timesPath (timesPath_not_mem core)
  simp only [coreChecks, run_bind, run_governor, hrun]
  have hsibling := run_sibling core after
  rw [Files.reading_congr (hafter _ (siblingsPath_not_mem core)), Files.reading_congr htimes,
    Files.secondReading_congr htimes] at hsibling
  have hcurrent : currentRatePath core ≠ governorPath core := corePath_ne (by decide)
  have hmax : maxRatePath core ≠ governorPath core := corePath_ne (by decide)
  rw [Files.reading_congr (hgovernor _ hcurrent), Files.reading_congr (hgovernor _ hmax), ← hsibling]
  rcases (sibling core).run after with ⟨fault | found, after'⟩
  · rfl
  · rfl

/-- **The checks of a core give their findings, unless processor times do not add up.** -/
lemma coreChecks_outcome (core : UInt64) (f : Files) :
    (TimesOverflow core f → ((coreChecks core).run f).1 = .error .addOverflow) ∧
      (¬ TimesOverflow core f → ∃ found, ((coreChecks core).run f).1 = .ok found) := by
  rw [run_coreChecks]
  constructor
  · intro h
    rw [siblingOutcome_of_overflow h]
    rfl
  · intro h
    obtain ⟨found, hfound⟩ := siblingOutcome_of_no_overflow h
    rw [hfound]
    exact ⟨_, rfl⟩

end OpTiming.Preflight
