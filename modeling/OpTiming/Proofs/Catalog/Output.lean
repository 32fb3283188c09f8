import Mathlib.Data.ENat.Lattice
import OpTiming.Proofs.Catalog.Table
import OpTiming.Proofs.Sink

/-!
# What a catalog run writes

A run writes one line for each row that it measures, and flushes after every line.  A sink can let it
down in two ways: it is full when a line is to be written, and then the line is missing; or a flush
fails, and then the line is there although the run ends.  Either way whatever was written is whole.

* **`Ends`** — how an action that is due to report some lines may end on a sink with limits.  Actions
  that end in this way one after the other end in it together (`Ends.append`).
* **`perform_ends`** — a performance ends in this way, by induction over its steps.
* **`output_on_limited_sink`** — how a run ends, in terms of the two limits.
-/

namespace OpTiming.Catalog

open OpTiming.Action

variable {ink : Ink} {features : FeatureSet} {config : Config}

/-- The lines under which results are reported. -/
def linesOf (format : OutputFormat) (timed : List Timed) : List String :=
  timed.map fun t => t.result.line format

/-! ## How reporting ends -/

/-- None of the flushes with these numbers fails, the first one left out. -/
def FlushesSucceed (badFlush : Option Nat) (first last : Nat) : Prop :=
  ∀ n, first < n → n ≤ last → badFlush ≠ some n

/-- Why reporting stops after so many of the lines that are due: the sink is full and a line is left,
or the flush of the last line failed. -/
def StopsAfter (capacity badFlush : Option Nat) (standing flushes due : Nat) (j : Nat) : Prop :=
  (capacity = some (standing + j) ∧ j < due ∧ FlushesSucceed badFlush flushes (flushes + j)) ∨
    (badFlush = some (flushes + j) ∧ 0 < j)

/-- **How an action ends that is due to report lines**, on a sink with limits at which it starts.  It
gives a report once all lines stand there; or it fails for a reason of the sink, and a first part of
the lines stands there. -/
def Ends (capacity badFlush : Option Nat) (lines : List String) (flushes : Nat) (due : List String) :
    Except Stop Report × Bench → Prop
  | (.ok _, after) =>
      after.sink.Stands capacity badFlush (lines ++ due) (flushes + due.length) ∧
        FlushesSucceed badFlush flushes (flushes + due.length)
  | (.error stop, after) =>
      ∃ cause j, stop = .failure (.output cause) ∧ j ≤ due.length ∧
        after.sink.Stands capacity badFlush (lines ++ due.take j) (flushes + j) ∧
        StopsAfter capacity badFlush lines.length flushes due.length j

variable {capacity badFlush : Option Nat} {lines : List String} {flushes : Nat}

lemma flushesSucceed_self : FlushesSucceed badFlush flushes flushes := by
  intro n hfirst hlast
  omega

lemma FlushesSucceed.trans {first mid last : Nat} (h : FlushesSucceed badFlush first mid)
    (h' : FlushesSucceed badFlush mid last) : FlushesSucceed badFlush first last := by
  intro n hfirst hlast
  by_cases hmid : n ≤ mid
  · exact h n hfirst hmid
  · exact h' n (by omega) hlast

/-- A reason to stop early is one to stop early among more lines. -/
lemma StopsAfter.mono {standing due more j : Nat}
    (h : StopsAfter capacity badFlush standing flushes due j) :
    StopsAfter capacity badFlush standing flushes (due + more) j := by
  obtain ⟨hcapacity, hj, hflushes⟩ | hflush := h
  · exact Or.inl ⟨hcapacity, by omega, hflushes⟩
  · exact Or.inr hflush

/-- A reason to stop later on is one to stop after the lines written before. -/
lemma StopsAfter.shift {standing first due j : Nat}
    (hfirst : FlushesSucceed badFlush flushes (flushes + first))
    (h : StopsAfter capacity badFlush (standing + first) (flushes + first) due j) :
    StopsAfter capacity badFlush standing flushes (first + due) (first + j) := by
  obtain ⟨hcapacity, hj, hflushes⟩ | ⟨hflush, hj⟩ := h
  · rw [Nat.add_assoc] at hcapacity
    refine Or.inl ⟨hcapacity, by omega, ?_⟩
    rw [← Nat.add_assoc]
    exact hfirst.trans hflushes
  · rw [Nat.add_assoc] at hflush
    exact Or.inr ⟨hflush, by omega⟩

/-- What fails before all its lines are reported also fails before more of them are. -/
lemma Ends.append_of_error {due : List String} {stop : Stop} {after : Bench}
    (h : Ends capacity badFlush lines flushes due (.error stop, after)) (more : List String) :
    Ends capacity badFlush lines flushes (due ++ more) (.error stop, after) := by
  obtain ⟨cause, j, hstop, hj, hstands, hreason⟩ := h
  refine ⟨cause, j, hstop, ?_, ?_, ?_⟩
  · rw [List.length_append]
    omega
  · rw [List.take_append_of_le_length hj]
    exact hstands
  · rw [List.length_append]
    exact hreason.mono

/-- **One action after another**: what is due to both is reported, or a first part of it. -/
lemma Ends.append {due due' : List String} {first : Report} {mid after : Bench}
    {outcome : Except Stop Report} (hfirst : Ends capacity badFlush lines flushes due (.ok first, mid))
    (hrest : Ends capacity badFlush (lines ++ due) (flushes + due.length) due' (outcome, after)) :
    Ends capacity badFlush lines flushes (due ++ due') (outcome.map first.append, after) := by
  cases outcome with
  | ok rest =>
      obtain ⟨hstands, hflushes⟩ := hrest
      rw [Nat.add_assoc, ← List.length_append] at hstands hflushes
      rw [List.append_assoc] at hstands
      exact ⟨hstands, hfirst.2.trans hflushes⟩
  | error stop =>
      obtain ⟨cause, j, hstop, hj, hstands, hreason⟩ := hrest
      refine ⟨cause, due.length + j, hstop, ?_, ?_, ?_⟩
      · rw [List.length_append]
        omega
      · rw [List.take_length_add_append, ← List.append_assoc, ← Nat.add_assoc]
        exact hstands
      · rw [List.length_append] at hreason ⊢
        exact hreason.shift hfirst.2

/-! ## Steps -/

lemma linesOf_append (format : OutputFormat) (xs ys : List Timed) :
    linesOf format (xs ++ ys) = linesOf format xs ++ linesOf format ys := List.map_append ..

lemma oneLine_timed {probe : Probe} (h : probe.Plain) (runs : UInt64) (c : Clock)
    (format : OutputFormat) : OneLine ((probe.timed runs c).result.line format) :=
  Measurement.oneLine_line h.name h.remark format

lemma oneLine_of_mem_linesOf {steps : List Step} (hsteps : ∀ step ∈ steps, step.Plain) (runs : UInt64)
    (c : Clock) (format : OutputFormat) : ∀ line ∈ linesOf format (results runs steps c), OneLine line := by
  induction steps generalizing c with
  | nil => nofun
  | cons step steps ih =>
      obtain ⟨hstep, hsteps⟩ := List.forall_mem_cons.mp hsteps
      rw [results, linesOf_append, List.forall_mem_append]
      refine ⟨?_, ih hsteps _⟩
      cases step with
      | announce title => nofun
      | warm body => nofun
      | skip name missing => nofun
      | measure probe => exact List.forall_mem_singleton.mpr (oneLine_timed hstep runs c format)

/-- An action that was to report nothing, gave a report and left the sink alone. -/
lemma ends_nil {b after : Bench} {report : Report}
    (h : b.sink.Stands capacity badFlush lines flushes) (hsink : after.sink = b.sink) :
    Ends capacity badFlush lines flushes [] (.ok report, after) := by
  refine ⟨?_, flushesSucceed_self⟩
  rw [List.append_nil, List.length_nil, Nat.add_zero, hsink]
  exact h

/-- A measured row is due its one line, unless one of its bodies meets a fault. -/
lemma act_measure_ends {b : Bench} (h : b.sink.Stands capacity badFlush lines flushes) {probe : Probe}
    (hprobe : probe.Plain) (hfault : FaultFree ((Step.act ink config (.measure probe)).on b).1) :
    Ends capacity badFlush lines flushes [(probe.timed config.runs b.clock).result.line config.format]
      ((Step.act ink config (.measure probe)).on b) := by
  rw [act_measure] at hfault ⊢
  obtain hrun | ⟨fault, clock, watch, made, -, hrun⟩ := Runner.measure_cases probe config.runs b
  · have hmeasured : (b.measuredBy probe config.runs).sink.Stands capacity badFlush lines flushes := h
    let line : Chunk := ⟨(probe.timed config.runs b.clock).result.line config.format,
      (probe.timed config.runs b.clock).maskedLine config.format⟩
    have hline : OneLine line.shown := oneLine_timed hprobe config.runs b.clock config.format
    simp only [hrun, Runner.reportTimed]
    obtain ⟨hfull, cause, hrun⟩ | ⟨hbad, cause, sink, hrun, hstands⟩ | ⟨hgood, sink, hrun, hstands⟩ :=
      hmeasured.reportLine_cases hline
    · rw [hrun]
      refine ⟨cause, 0, rfl, Nat.zero_le _, ?_, Or.inl ⟨hfull, Nat.zero_lt_one, flushesSucceed_self⟩⟩
      rw [List.take_zero, List.append_nil]
      exact hmeasured
    · rw [hrun]
      exact ⟨cause, 1, rfl, Nat.le_refl 1, hstands, Or.inr ⟨hbad, Nat.zero_lt_one⟩⟩
    · rw [hrun]
      refine ⟨hstands, ?_⟩
      intro n hfirst hlast
      have hn : n = flushes + 1 := by
        rw [List.length_singleton] at hlast
        omega
      rw [hn]
      exact hgood
  · rw [hrun] at hfault
    exact absurd rfl (hfault fault)

lemma act_ends {b : Bench} (h : b.sink.Stands capacity badFlush lines flushes) {step : Step}
    (hstep : step.Plain) (hfault : FaultFree ((step.act ink config).on b).1) :
    Ends capacity badFlush lines flushes (linesOf config.format (step.results config.runs b.clock))
      ((step.act ink config).on b) := by
  cases step with
  | announce title =>
      rw [act_announce]
      exact ends_nil h rfl
  | skip name missing =>
      rw [act_skip]
      exact ends_nil h rfl
  | warm body =>
      rw [act_warm] at hfault ⊢
      cases hcount : body.count config.runs with
      | ok groups => exact ends_nil h rfl
      | error fault =>
          rw [hcount] at hfault
          exact absurd rfl (hfault fault)
  | measure probe => exact act_measure_ends h hstep hfault

/-- A step whose bodies return meets no fault. -/
lemma act_faultFree {step : Step} (h : step.Orderly config.runs) (b : Bench) :
    FaultFree ((step.act ink config).on b).1 := by
  cases step with
  | announce title =>
      rw [act_announce]
      exact faultFree_ok _
  | skip name missing =>
      rw [act_skip]
      exact faultFree_ok _
  | warm body =>
      obtain ⟨groups, hcount⟩ := h
      rw [act_warm, hcount]
      exact faultFree_ok _
  | measure probe =>
      obtain ⟨g₁, h₁⟩ := h.throughput
      obtain ⟨g₂, h₂⟩ := h.latency
      rw [act_measure, Runner.measure_of_ok h₁ h₂]
      obtain ⟨sink, hreport⟩ | ⟨cause, sink, hreport⟩ := Runner.reportTimed_cases config.format
        (probe.timed config.runs b.clock) (b.measuredBy probe config.runs)
      · simp only [hreport]
        exact faultFree_ok _
      · simp only [hreport]
        exact faultFree_failure _

/-! ## Performances -/

/-- A performance of orderly steps meets no fault. -/
lemma perform_faultFree {steps : List Step} (hsteps : ∀ step ∈ steps, step.Orderly config.runs) (b : Bench) :
    FaultFree ((perform ink config steps).on b).1 := by
  intro fault hfault
  obtain ⟨done, step, rest, report, mid, rfl, -, hact⟩ := perform_eq_error (Prod.ext hfault rfl)
  have horderly : step.Orderly config.runs := hsteps step (by simp)
  exact act_faultFree horderly mid fault (congrArg Prod.fst hact)

/-- **A performance of plain steps ends with the lines of its results**, or with a first part of them,
unless it meets a fault. -/
lemma perform_ends {steps : List Step} (hsteps : ∀ step ∈ steps, step.Plain) {b : Bench}
    (h : b.sink.Stands capacity badFlush lines flushes)
    (hfault : FaultFree ((perform ink config steps).on b).1) :
    Ends capacity badFlush lines flushes (linesOf config.format (results config.runs steps b.clock))
      ((perform ink config steps).on b) := by
  -- the rest starts on a sink that holds more lines, on the clock that the first step left
  induction steps generalizing lines flushes b with
  | nil => exact ends_nil h rfl
  | cons step steps ih =>
      obtain ⟨hstep, hsteps⟩ := List.forall_mem_cons.mp hsteps
      have hfirst := act_ends h hstep (FaultFree.of_bind hfault)
      rcases hact : (step.act ink config).on b with ⟨stop | first, mid⟩
      · rw [hact] at hfirst
        rw [perform_cons_eq_error.mpr (Or.inl hact), results, linesOf_append]
        exact hfirst.append_of_error _
      · rw [hact] at hfirst
        obtain ⟨sink, watch, -, hmid⟩ := act_eq_ok hact
        have hclock : mid.clock = step.clockAfter b.clock := by rw [hmid]
        rw [results, linesOf_append, ← hclock]
        rcases hperform : (perform ink config steps).on mid with ⟨stop | rest, after⟩
        · rw [perform_cons_eq_error.mpr (Or.inr ⟨first, mid, hact, hperform⟩)] at hfault ⊢
          have hrest := ih hsteps hfirst.1 (by rw [hperform]; exact hfault)
          rw [hperform] at hrest
          exact hfirst.append hrest
        · have hrest := ih hsteps hfirst.1 (by rw [hperform]; exact faultFree_ok rest)
          rw [hperform] at hrest
          rw [perform_cons_eq_ok.mpr ⟨first, mid, rest, hact, hperform, rfl⟩]
          exact hfirst.append hrest

/-! ## Runs -/

/-- A limit as a number, without limit as infinity. -/
def limit (n : Option Nat) : ℕ∞ := n.elim ⊤ Nat.cast

lemma le_limit_iff {k : Nat} {n : Option Nat} : (k : ℕ∞) ≤ limit n ↔ ∀ m, n = some m → k ≤ m := by
  cases n with
  | none => simp [limit]
  | some m => simp [limit]

lemma lt_limit_iff {k : Nat} {n : Option Nat} : (k : ℕ∞) < limit n ↔ ∀ m, n = some m → k < m := by
  cases n with
  | none => simp [limit]
  | some m => simp [limit]

/-- A sink whose limits leave room for all lines lets no action stop. -/
lemma not_stopsAfter {standing due j : Nat} (hcapacity : ((standing + due : ℕ) : ℕ∞) ≤ limit capacity)
    (hflush : (due : ℕ∞) < limit badFlush) (hj : j ≤ due) :
    ¬ StopsAfter capacity badFlush standing 0 due j := by
  rintro (⟨hfull, hlt, -⟩ | ⟨hbad, -⟩)
  · have hle := le_limit_iff.mp hcapacity _ hfull
    omega
  · have hlt := lt_limit_iff.mp hflush _ hbad
    omega

/-- Reporting stops at the lower one of the two limits. -/
lemma eq_min_of_stopsAfter {due j : Nat} (hbad : badFlush ≠ some 0)
    (hwithin : ∀ m, capacity = some m → j ≤ m) (h : StopsAfter capacity badFlush 0 0 due j) :
    (j : ℕ∞) = min (limit capacity) (limit badFlush) := by
  obtain ⟨hfull, -, hflushes⟩ | ⟨hflush, -⟩ := h
  · have hle : (j : ℕ∞) ≤ limit badFlush := by
      rw [le_limit_iff]
      rintro n rfl
      by_contra hlt
      have hpos : n ≠ 0 := fun hzero => hbad (by rw [hzero])
      exact hflushes n (by omega) (by omega) rfl
    rw [Nat.zero_add] at hfull
    rw [hfull]
    exact (min_eq_left hle).symm
  · have hle : (j : ℕ∞) ≤ limit capacity := le_limit_iff.mpr hwithin
    rw [Nat.zero_add] at hflush
    rw [hflush]
    exact (min_eq_right hle).symm

/-- On a sink that was not flushed yet and whose limits leave room for all lines, all of them are
reported. -/
lemma Ends.ok_of_room {due : List String} {outcome : Except Stop Report} {after : Bench}
    (h : Ends capacity badFlush lines 0 due (outcome, after))
    (hcapacity : ((lines.length + due.length : ℕ) : ℕ∞) ≤ limit capacity)
    (hflush : (due.length : ℕ∞) < limit badFlush) :
    ∃ report, outcome = .ok report ∧ after.sink.text = asLines (lines ++ due) ∧
      after.sink.flushes = due.length := by
  cases outcome with
  | error stop =>
      obtain ⟨cause, j, -, hj, -, hreason⟩ := h
      exact absurd hreason (not_stopsAfter hcapacity hflush hj)
  | ok report =>
      obtain ⟨hstands, -⟩ := h
      refine ⟨report, rfl, hstands.text, ?_⟩
      rw [hstands.flushes, Nat.zero_add]

/-- On a sink that was not flushed yet and has room, reporting fails right after the line whose number is
that of the bad flush. -/
lemma Ends.error_of_flush {due : List String} {outcome : Except Stop Report} {after : Bench} {n : Nat}
    (h : Ends capacity (some n) lines 0 due (outcome, after)) (hn : n ≠ 0) (hdue : n ≤ due.length)
    (hcapacity : ((lines.length + n : ℕ) : ℕ∞) ≤ limit capacity) :
    ∃ cause, outcome = .error (.failure (.output cause)) ∧
      after.sink.text = asLines (lines ++ due.take n) := by
  cases outcome with
  | ok report => exact absurd rfl (h.2 n (by omega) (by omega))
  | error stop =>
      obtain ⟨cause, j, rfl, -, hstands, ⟨hfull, -, hflushes⟩ | ⟨hbad, -⟩⟩ := h
      · -- the sink would have to be full before the bad flush
        have hle := le_limit_iff.mp hcapacity _ hfull
        exact absurd rfl (hflushes n (by omega) (by omega))
      · have hj : n = j := by
          rw [Option.some.injEq] at hbad
          omega
        exact ⟨cause, rfl, hj ▸ hstands.text⟩

/-- On a fresh sink whose limits do not leave room for all lines, reporting fails at the lower limit. -/
lemma Ends.error_of_short {due : List String} {outcome : Except Stop Report} {after : Bench}
    (h : Ends capacity badFlush [] 0 due (outcome, after)) (hbad : badFlush ≠ some 0)
    (hshort : ¬ ((due.length : ℕ∞) ≤ limit capacity ∧ (due.length : ℕ∞) < limit badFlush)) :
    ∃ (cause : String) (j : Nat), outcome = .error (.failure (.output cause)) ∧
      (j : ℕ∞) = min (limit capacity) (limit badFlush) ∧ j ≤ due.length ∧
      after.sink.text = asLines (due.take j) := by
  cases outcome with
  | error stop =>
      obtain ⟨cause, j, rfl, hj, hstops, hreason⟩ := h
      have hwithin : ∀ m, capacity = some m → j ≤ m := by
        intro m hm
        have hle := hstops.within m hm
        rw [List.nil_append, List.length_take] at hle
        omega
      exact ⟨cause, j, rfl, eq_min_of_stopsAfter hbad hwithin hreason, hj, hstops.text⟩
  | ok report =>
      -- all lines stand there, so both limits left room for them
      obtain ⟨hall, hflushes⟩ := h
      refine absurd ⟨le_limit_iff.mpr hall.within, lt_limit_iff.mpr ?_⟩ hshort
      rintro n rfl
      by_contra hle
      have hpos : n ≠ 0 := fun hzero => hbad (by rw [hzero])
      exact hflushes n (by omega) (by omega) rfl

/-- How a run of an orderly table ends on a sink that was not used before. -/
lemma run_ends (ink : Ink) (features : FeatureSet) {config : Config} {families : List Family} {b : Bench}
    (hsink : b.sink = .new capacity badFlush)
    (hfamilies : ∀ family ∈ families, family.Orderly config.runs) :
    Ends capacity badFlush [] 0
      (linesOf config.format (results config.runs (plan features config families) b.clock))
      ((run ink features config families).on b) := by
  have hstands : b.sink.Stands capacity badFlush [] 0 := hsink ▸ Sink.stands_new capacity badFlush
  have horderly : ∀ step ∈ plan features config families, step.Orderly config.runs :=
    fun step hstep => orderly_of_mem_plan hfamilies hstep
  rw [run_eq_perform]
  exact perform_ends (fun step hstep => (horderly step hstep).plain) hstands (perform_faultFree horderly b)

/-- On a sink without limits a run of an orderly table gives a report. -/
lemma run_ok_of_unlimited (ink : Ink) (features : FeatureSet) {config : Config} {families : List Family}
    {b : Bench} (hsink : b.sink = .new none none)
    (hfamilies : ∀ family ∈ families, family.Orderly config.runs) :
    ∃ report after, (run ink features config families).on b = (.ok report, after) := by
  have hends := run_ends ink features hsink hfamilies
  rcases hrun : (run ink features config families).on b with ⟨outcome, after⟩
  rw [hrun] at hends
  obtain ⟨report, rfl, -⟩ := hends.ok_of_room (by simp [limit]) (by simp [limit])
  exact ⟨report, after, rfl⟩

lemma length_linesOf_results (families : List Family) (c : Clock) :
    (linesOf config.format (results config.runs (plan features config families) c)).length =
      (runnable features families).length := by
  rw [linesOf, List.length_map]
  exact (results_carry features config families c).length_eq.symm

/-- **What is written to a sink with limits.**  Take the results that the runnable rows of an orderly
table give on the clock, one for each row and in their order, and the lines of these results.  If the
sink takes at least that many line feeds and its bad flush comes later than that, the run gives a report
with these results, and the sink holds all the lines and was flushed once for each.  Otherwise the run
fails for a reason of the sink, and the sink holds as many of the lines as the lower limit says.
Flushes are counted from one, so there is no bad flush of number zero. -/
theorem output_on_limited_sink (ink : Ink) (features : FeatureSet) (config : Config)
    (families : List Family) (b : Bench) (capacity badFlush : Option Nat)
    (hsink : b.sink = .new capacity badFlush) (hbad : badFlush ≠ some 0)
    (hfamilies : ∀ family ∈ families, family.Orderly config.runs) :
    let due := runnable features families
    let timed := results config.runs (plan features config families) b.clock
    let lines := linesOf config.format timed
    List.Forall₂ (fun row t => Carries row.2 t.result) due timed ∧
      ((due.length : ℕ∞) ≤ limit capacity ∧ (due.length : ℕ∞) < limit badFlush →
        ∃ report after, (run ink features config families).on b = (.ok report, after) ∧
          report.measured = timed ∧ after.sink.text = asLines lines ∧
          after.sink.flushes = due.length) ∧
      (¬ ((due.length : ℕ∞) ≤ limit capacity ∧ (due.length : ℕ∞) < limit badFlush) →
        ∃ (cause : String) (after : Bench) (j : Nat),
          (run ink features config families).on b = (.error (.failure (.output cause)), after) ∧
          (j : ℕ∞) = min (limit capacity) (limit badFlush) ∧ j ≤ lines.length ∧
          after.sink.text = asLines (lines.take j)) := by
  intro due timed lines
  have hlength : lines.length = due.length := length_linesOf_results families b.clock
  have hends : Ends capacity badFlush [] 0 lines ((run ink features config families).on b) :=
    run_ends ink features hsink hfamilies
  rcases hrun : (run ink features config families).on b with ⟨outcome, after⟩
  rw [hrun] at hends
  rw [← hlength]
  refine ⟨results_carry features config families b.clock, ?_, ?_⟩
  · rintro ⟨hcapacity, hflush⟩
    rw [← Nat.zero_add lines.length] at hcapacity
    obtain ⟨report, rfl, htext, hflushes⟩ := hends.ok_of_room hcapacity hflush
    rw [run_eq_perform] at hrun
    exact ⟨report, after, rfl, by rw [perform_eq_ok hrun], htext, hflushes⟩
  · intro hshort
    obtain ⟨cause, j, rfl, hj, hle, htext⟩ := hends.error_of_short hbad hshort
    exact ⟨cause, after, j, rfl, hj, hle, htext⟩

/-- A sink whose first flush fails holds the first line of the sample family and not the second one. -/
theorem output_of_sample :
    (runnable (.ofList [.sse, .avx]) [Family.sample]).length = 2 ∧
      ∃ cause after, (run .plain (.ofList [.sse, .avx]) {} [Family.sample]).on
          (.new (.ticking 0 5 1) (.new none (some 1)) (.ofList [])) =
            (.error (.failure (.output cause)), after) ∧
        after.sink.text = asLines ((linesOf .text (results ({} : Config).runs
          (plan (.ofList [.sse, .avx]) {} [Family.sample]) (.ticking 0 5 1))).take 1) := by
  have hlength : (runnable (.ofList [.sse, .avx]) [Family.sample]).length = 2 := rfl
  have hsample : ∀ family ∈ [Family.sample], family.Orderly ({} : Config).runs := by
    simpa using Family.sample_orderly _
  obtain ⟨-, -, hshort⟩ := output_on_limited_sink .plain (.ofList [.sse, .avx]) {} [Family.sample]
    (.new (.ticking 0 5 1) (.new none (some 1)) (.ofList [])) none (some 1) rfl (by decide) hsample
  have hlimits : ¬ ((2 : ℕ) : ℕ∞) < limit (some 1) := by
    rw [lt_limit_iff]
    exact fun h => absurd (h 1 rfl) (by decide)
  obtain ⟨cause, after, j, hrun, hj, -, htext⟩ := hshort fun h => hlimits (hlength ▸ h.2)
  have hone : j = 1 := by
    rw [limit, limit, Option.elim_none, Option.elim_some, top_inf_eq] at hj
    exact Nat.cast_injective hj
  rw [hone] at htext
  exact ⟨hlength, cause, after, hrun, htext⟩

end OpTiming.Catalog
