import OpTiming.Proofs.Alike

/-!
# Which readings a figure comes from

One stopwatch times both bodies of a probe, and all probes that are run on a bench share it.  It is started
again before each body, so a figure comes from the two readings around its own body and from nothing else.

* **`Probe.readings`** — the four readings between which a probe is measured.  Each body moves the clock
  between two of them (`readings_eq`).
* **`session`** — probes that are run one after the other, whether or not their lines can be written.  Each
  of them calls its two bodies (`session_of_returns`) and takes four readings (`readings_clockBehind`).
* **`Turn`** — the turn of one probe in a session.  A body that does not return ends the turn where it was
  called, and so shows between which readings this is (`Turn.leaves_of_error`, `Turn.leaves_of_ok_error`).
* **`Turn.figures_come_from_own_readings`** — the figures of a turn, and what any two turns have in common.
-/

namespace OpTiming

open OpTiming.Action

/-! ## Four readings -/

/-- The readings of the clock between which the two bodies of a probe are called. -/
structure Readings where
  throughputStart : Nat
  throughputEnd : Nat
  latencyStart : Nat
  latencyEnd : Nat
  deriving DecidableEq, Repr

/-- The readings between which a probe is measured, the first of which is the next one of a clock. -/
def Probe.readings (probe : Probe) (c : Clock) : Readings :=
  let (throughputStart, c) := c.read
  let (throughputEnd, c) := (c.advance probe.throughput.spend).read
  let (latencyStart, c) := c.read
  let (latencyEnd, _) := (c.advance probe.latency.spend).read
  { throughputStart, throughputEnd, latencyStart, latencyEnd }

/-- A body moves the clock between its own two readings. -/
lemma Probe.readings_eq (probe : Probe) (c : Clock) :
    (probe.readings c).throughputStart = c.now + c.pace c.readings ∧
      (probe.readings c).throughputEnd =
        (probe.readings c).throughputStart + probe.throughput.spend + c.pace (c.readings + 1) ∧
      (probe.readings c).latencyStart = (probe.readings c).throughputEnd + c.pace (c.readings + 2) ∧
      (probe.readings c).latencyEnd =
        (probe.readings c).latencyStart + probe.latency.spend + c.pace (c.readings + 3) :=
  ⟨rfl, rfl, rfl, rfl⟩

namespace Runner

/-! ## Sessions -/

/-- Probes, each with its number of loop iterations, that are run one after the other: how each of them
ended, and the bench after the last one.  A probe is run even if an earlier one could not be reported. -/
def session (format : OutputFormat) : List (Probe × UInt64) → Bench → List (Except Stop Timed) × Bench
  | [], b => ([], b)
  | (probe, runs) :: rows, b =>
    let (outcome, b) := (run format probe runs).on b
    let (outcomes, b) := session format rows b
    (outcome :: outcomes, b)

section Sessions

variable (format : OutputFormat)

lemma length_session (rows : List (Probe × UInt64)) (b : Bench) :
    (session format rows b).1.length = rows.length := by
  induction rows generalizing b with
  | nil => rfl
  | cons row rows ih => simp only [session, List.length_cons, ih]

lemma session_append (rows rows' : List (Probe × UInt64)) (b : Bench) :
    session format (rows ++ rows') b =
      ((session format rows b).1 ++ (session format rows' (session format rows b).2).1,
        (session format rows' (session format rows b).2).2) := by
  induction rows generalizing b with
  | nil => rfl
  | cons row rows ih => simp only [List.cons_append, session, ih]

/-- **One turn of a session.**  If both bodies return, then the probe is measured, and the sink decides
whether the result is given. -/
lemma run_of_returns {probe : Probe} {runs : UInt64} (h : Returns (probe, runs)) (b : Bench) :
    ∃ outcome sink, (run format probe runs).on b = (outcome, { b.measuredBy probe runs with sink }) ∧
      (outcome = .ok (probe.timed runs b.clock) ∨ ∃ cause, outcome = .error (.failure (.output cause))) := by
  obtain ⟨⟨g₁, h₁⟩, g₂, h₂⟩ := h
  simp only [run, on_bind, measure_of_ok h₁ h₂]
  obtain ⟨sink, hreport⟩ | ⟨cause, sink, hreport⟩ :=
    reportTimed_cases format (probe.timed runs b.clock) (b.measuredBy probe runs)
  · rw [hreport]
    exact ⟨_, sink, rfl, Or.inl rfl⟩
  · rw [hreport]
    exact ⟨_, sink, rfl, Or.inr ⟨cause, rfl⟩⟩

/-- The clock behind probes that were measured in order, the first of them on the clock given. -/
def clockBehind (rows : List (Probe × UInt64)) (c : Clock) : Clock :=
  rows.foldl (fun c row => row.1.clockAfter c) c

/-- **A session calls the two bodies of each probe**, in order, whatever happens to the lines.  The sink does
not touch the clock. -/
lemma session_of_returns {rows : List (Probe × UInt64)} (hrows : ∀ row ∈ rows, Returns row) (b : Bench) :
    (session format rows b).2.clock = clockBehind rows b.clock ∧
      (session format rows b).2.calls.toList =
        b.calls.toList ++ rows.flatMap fun (probe, runs) => probe.calls runs := by
  induction rows generalizing b with
  | nil => exact ⟨rfl, by rw [List.flatMap_nil, List.append_nil]; rfl⟩
  | cons row rows ih =>
      obtain ⟨probe, runs⟩ := row
      obtain ⟨hrow, hrows⟩ := List.forall_mem_cons.mp hrows
      obtain ⟨outcome, sink, hrun, -⟩ := run_of_returns format hrow b
      obtain ⟨hclock, hcalls⟩ := ih hrows { b.measuredBy probe runs with sink }
      simp only [session, hrun]
      refine ⟨hclock, ?_⟩
      rw [hcalls, List.flatMap_cons, ← List.append_assoc, ← b.measuredBy_calls probe runs]

/-- **Four readings are taken for each probe.** -/
lemma readings_clockBehind (rows : List (Probe × UInt64)) (c : Clock) :
    (clockBehind rows c).readings = c.readings + 4 * rows.length := by
  induction rows generalizing c with
  | nil => rfl
  | cons row rows ih =>
      have hfour : (row.1.clockAfter c).readings = c.readings + 4 := rfl
      have hrows := ih (row.1.clockAfter c)
      rw [hfour] at hrows
      rw [List.length_cons, Nat.mul_succ, clockBehind, List.foldl_cons, ← clockBehind, hrows]
      omega

lemma pace_clockBehind (rows : List (Probe × UInt64)) (c : Clock) : (clockBehind rows c).pace = c.pace := by
  induction rows generalizing c with
  | nil => rfl
  | cons row rows ih => exact ih (row.1.clockAfter c)

end Sessions

/-! ## Turns -/

/-- The turn of a probe in a session on a bench.  The bodies of the probes before it return; its own ones
need not. -/
structure Turn where
  format : OutputFormat
  bench : Bench
  before : List (Probe × UInt64)
  returned : ∀ row ∈ before, Returns row
  probe : Probe
  runs : UInt64

namespace Turn

/-- The bench at the start of the turn. -/
def start (u : Turn) : Bench := (session u.format u.before u.bench).2

/-- How the turn ends. -/
def ended (u : Turn) : Except Stop Timed × Bench := (run u.format u.probe u.runs).on u.start

/-- The readings of the turn. -/
def readings (u : Turn) : Readings := u.probe.readings u.start.clock

/-- What is measured in the turn if the bodies return. -/
def measured (u : Turn) : Timed := u.probe.timed u.runs u.start.clock

/-- By how much the clock moves by itself before a reading of the turn, counted from zero. -/
def pause (u : Turn) (n : Nat) : Nat :=
  u.bench.clock.pace (u.bench.clock.readings + 4 * u.before.length + n)

/-- What a turn leaves behind: so many readings and these calls have been added to the bench, the stopwatch
was last started at one time, and the clock stands at another. -/
structure Leaves (u : Turn) (readings : Nat) (calls : List Call) (started now : Nat) : Prop where
  readings : u.ended.2.clock.readings = u.start.clock.readings + readings
  calls : u.ended.2.calls.toList = u.start.calls.toList ++ calls
  started : u.ended.2.watch.epoch = started
  now : u.ended.2.clock.now = now

variable (u v : Turn)

lemma clock_start : u.start.clock = clockBehind u.before u.bench.clock :=
  (session_of_returns u.format u.returned u.bench).1

lemma pace_start (n : Nat) : u.start.clock.pace (u.start.clock.readings + n) = u.pause n := by
  rw [clock_start, pace_clockBehind, readings_clockBehind, pause]

/-- A turn stands in its session behind the probes before it, whatever comes later. -/
lemma getElem?_session (later : List (Probe × UInt64)) :
    (session u.format (u.before ++ (u.probe, u.runs) :: later) u.bench).1[u.before.length]? =
      some u.ended.1 := by
  have hlength := length_session u.format u.before u.bench
  rw [session_append, List.getElem?_append_right (Nat.le_of_eq hlength), hlength, Nat.sub_self]
  rfl

/-! Where the bodies are called. -/

section Ends

variable {u} {fault : Fault} {g₁ g₂ : UInt64}

/-- The throughput body is called behind the first reading. -/
lemma leaves_of_error (h : u.probe.throughput.count u.runs = .error fault) :
    u.ended.1 = .error (.fault fault) ∧
      u.Leaves 1 [⟨u.probe.throughput.label, u.runs⟩] u.readings.throughputStart
        (u.readings.throughputStart + u.probe.throughput.spend) := by
  have hended : u.ended = (.error (.fault fault), u.start.stoppedIn u.probe.throughput u.runs) := by
    simp only [ended, run, on_bind, measure_of_error h]
  refine ⟨by rw [hended], ?_, ?_, ?_, ?_⟩ <;> rw [hended]
  · rfl
  · simp [Bench.stoppedIn]
  · rfl
  · rfl

/-- The latency body is called behind the third reading. -/
lemma leaves_of_ok_error (h₁ : u.probe.throughput.count u.runs = .ok g₁)
    (h₂ : u.probe.latency.count u.runs = .error fault) :
    u.ended.1 = .error (.fault fault) ∧
      u.Leaves 3 (u.probe.calls u.runs) u.readings.latencyStart
        (u.readings.latencyStart + u.probe.latency.spend) := by
  have hended : u.ended = (.error (.fault fault),
      (u.start.timedBy u.probe.throughput u.runs).stoppedIn u.probe.latency u.runs) := by
    simp only [ended, run, on_bind, measure_of_ok_error h₁ h₂]
  refine ⟨by rw [hended], ?_, ?_, ?_, ?_⟩ <;> rw [hended]
  · rfl
  · simp [Bench.stoppedIn, Bench.timedBy, Probe.calls]
  · rfl
  · rfl

/-- If both bodies return, then the clock is read a fourth time, and never again for the line. -/
lemma leaves_of_ok (h₁ : u.probe.throughput.count u.runs = .ok g₁)
    (h₂ : u.probe.latency.count u.runs = .ok g₂) :
    (u.ended.1 = .ok u.measured ∨ ∃ cause, u.ended.1 = .error (.failure (.output cause))) ∧
      u.Leaves 4 (u.probe.calls u.runs) u.readings.latencyStart u.readings.latencyEnd := by
  obtain ⟨outcome, sink, hended, houtcome⟩ := run_of_returns u.format ⟨⟨g₁, h₁⟩, g₂, h₂⟩ u.start
  rw [← ended] at hended
  refine ⟨by rwa [hended], ?_, ?_, ?_, ?_⟩ <;> rw [hended]
  · rfl
  · exact u.start.measuredBy_calls u.probe u.runs
  · rfl
  · rfl

end Ends

/-! Where the figures come from. -/

lemma readings_eq :
    u.readings.throughputStart = u.start.clock.now + u.pause 0 ∧
      u.readings.throughputEnd = u.readings.throughputStart + u.probe.throughput.spend + u.pause 1 ∧
      u.readings.latencyStart = u.readings.throughputEnd + u.pause 2 ∧
      u.readings.latencyEnd = u.readings.latencyStart + u.probe.latency.spend + u.pause 3 := by
  simp only [← pace_start]
  exact u.probe.readings_eq u.start.clock

lemma throughput_span :
    u.readings.throughputEnd - u.readings.throughputStart = u.probe.throughput.spend + u.pause 1 := by
  obtain ⟨-, hend, -⟩ := u.readings_eq
  omega

lemma latency_span :
    u.readings.latencyEnd - u.readings.latencyStart = u.probe.latency.spend + u.pause 3 := by
  obtain ⟨-, -, -, hend⟩ := u.readings_eq
  omega

lemma throughputNs_measured : u.measured.result.throughputNs =
    perOperation (Span.toNanoseconds (u.readings.throughputEnd - u.readings.throughputStart))
      (u.probe.throughput.groups u.runs) := rfl

lemma gflops_measured :
    u.measured.result.gflops = rate u.probe.width u.measured.result.throughputNs := rfl

lemma latencyNs_measured : u.measured.result.latencyNs =
    perOperation (Span.toNanoseconds (u.readings.latencyEnd - u.readings.latencyStart))
      (u.probe.latency.groups u.runs) := rfl

/-- Turns with the same time and the same count for their throughput bodies find the same throughput, and
the same rate if their widths are the same. -/
lemma throughput_congr
    (hcount : u.probe.throughput.count u.runs = v.probe.throughput.count v.runs)
    (hspan : u.probe.throughput.spend + u.pause 1 = v.probe.throughput.spend + v.pause 1) :
    u.measured.result.throughputNs = v.measured.result.throughputNs ∧
      (u.probe.width = v.probe.width → u.measured.result.gflops = v.measured.result.gflops) := by
  have hthroughput : u.measured.result.throughputNs = v.measured.result.throughputNs := by
    rw [throughputNs_measured, throughputNs_measured, throughput_span, throughput_span, hspan,
      Body.groups, Body.groups, hcount]
  refine ⟨hthroughput, ?_⟩
  intro hwidth
  rw [gflops_measured, gflops_measured, hthroughput, hwidth]

/-- Turns with the same time and the same count for their latency bodies find the same latency. -/
lemma latency_congr (hcount : u.probe.latency.count u.runs = v.probe.latency.count v.runs)
    (hspan : u.probe.latency.spend + u.pause 3 = v.probe.latency.spend + v.pause 3) :
    u.measured.result.latencyNs = v.measured.result.latencyNs := by
  rw [latencyNs_measured, latencyNs_measured, latency_span, latency_span, hspan,
    Body.groups, Body.groups, hcount]

/-- **Figures come from their own readings.**  A turn starts when the clock was read four times for each
probe before it and their bodies were called, and later probes change nothing of it.

Its first two readings differ by the time that the throughput body takes and by what the clock moves before
the second one, and so do the other two for the latency body.  The throughput body is called behind the
first reading, since there the turn ends if the body does not return, and the latency body behind the third.
If both return, then the clock is read four times and each body is called once, whether or not the line can
be written.  The figures are made from these two differences, the two counts and the width, and a count of
zero makes its figures zero.

So two turns whose throughput bodies report the same and took the same time find the same throughput, and at
the same width the same rate; and they find the same latency if this holds of their latency bodies.  All else
may differ: the other body, the probes before, the sink, the format, and what the clock moves between the
second and the third reading or while lines are written. -/
theorem figures_come_from_own_readings (u : Turn) :
    let t := u.readings
    let throughput := u.probe.throughput
    let latency := u.probe.latency
    let found := u.measured.result
    (u.start.clock.readings = u.bench.clock.readings + 4 * u.before.length ∧
      u.start.calls.toList =
        u.bench.calls.toList ++ u.before.flatMap fun (probe, runs) => probe.calls runs) ∧
    (∀ later, (session u.format (u.before ++ (u.probe, u.runs) :: later) u.bench).1[u.before.length]? =
      some u.ended.1) ∧
    (t.throughputStart = u.start.clock.now + u.pause 0 ∧
      t.throughputEnd = t.throughputStart + throughput.spend + u.pause 1 ∧
      t.latencyStart = t.throughputEnd + u.pause 2 ∧
      t.latencyEnd = t.latencyStart + latency.spend + u.pause 3) ∧
    (∀ fault, throughput.count u.runs = .error fault →
      u.ended.1 = .error (.fault fault) ∧
        u.Leaves 1 [⟨throughput.label, u.runs⟩] t.throughputStart (t.throughputStart + throughput.spend)) ∧
    (∀ g₁ fault, throughput.count u.runs = .ok g₁ → latency.count u.runs = .error fault →
      u.ended.1 = .error (.fault fault) ∧
        u.Leaves 3 (u.probe.calls u.runs) t.latencyStart (t.latencyStart + latency.spend)) ∧
    (∀ g₁ g₂, throughput.count u.runs = .ok g₁ → latency.count u.runs = .ok g₂ →
      (u.ended.1 = .ok u.measured ∨ ∃ cause, u.ended.1 = .error (.failure (.output cause))) ∧
      u.Leaves 4 (u.probe.calls u.runs) t.latencyStart t.latencyEnd ∧
      found.throughputNs = perOperation (Span.toNanoseconds (t.throughputEnd - t.throughputStart)) g₁ ∧
      found.gflops = rate u.probe.width found.throughputNs ∧
      found.latencyNs = perOperation (Span.toNanoseconds (t.latencyEnd - t.latencyStart)) g₂ ∧
      (g₁ = 0 → found.throughputNs = 0.0 ∧ found.gflops = 0.0) ∧
      (g₂ = 0 → found.latencyNs = 0.0)) ∧
    ∀ v : Turn,
      (throughput.count u.runs = v.probe.throughput.count v.runs →
        throughput.spend + u.pause 1 = v.probe.throughput.spend + v.pause 1 →
        found.throughputNs = v.measured.result.throughputNs ∧
          (u.probe.width = v.probe.width → found.gflops = v.measured.result.gflops)) ∧
      (latency.count u.runs = v.probe.latency.count v.runs →
        latency.spend + u.pause 3 = v.probe.latency.spend + v.pause 3 →
        found.latencyNs = v.measured.result.latencyNs) := by
  intro t throughput latency found
  obtain ⟨-, hcalls⟩ := session_of_returns u.format u.returned u.bench
  have hreadings : u.start.clock.readings = u.bench.clock.readings + 4 * u.before.length := by
    rw [clock_start, readings_clockBehind]
  refine ⟨⟨hreadings, hcalls⟩, u.getElem?_session, u.readings_eq, ?_, ?_, ?_, ?_⟩
  · exact fun fault h => leaves_of_error h
  · exact fun g₁ fault h₁ h₂ => leaves_of_ok_error h₁ h₂
  · intro g₁ g₂ h₁ h₂
    obtain ⟨houtcome, hleaves⟩ := leaves_of_ok h₁ h₂
    have hthroughput := u.throughputNs_measured
    have hlatency := u.latencyNs_measured
    rw [Body.groups_of_ok h₁] at hthroughput
    rw [Body.groups_of_ok h₂] at hlatency
    refine ⟨houtcome, hleaves, hthroughput, u.gflops_measured, hlatency, ?_, ?_⟩
    · rintro rfl
      rw [perOperation_zero] at hthroughput
      refine ⟨hthroughput, ?_⟩
      show u.measured.result.gflops = 0.0
      rw [gflops_measured, hthroughput, rate_zero]
    · rintro rfl
      rw [perOperation_zero] at hlatency
      exact hlatency
  · exact fun v => ⟨u.throughput_congr v, u.latency_congr v⟩

/-- A turn without earlier probes, on a clock that ticks before every reading.  The latency body reports no
operations. -/
def alone : Turn where
  format := .text
  bench := .new (.ticking 0 5 1) (.new none none) (.ofList [])
  before := []
  returned := List.forall_mem_nil _
  probe := ⟨"alone", .constant "throughput" 8 40, .constant "latency" 0 7, 4, [], none⟩
  runs := 1

/-- A turn behind another one, on a clock that moves more and more and a sink that takes no line.  The
throughput body reports as much as that of `alone`, and the stopwatch shows the same for it: less in the
body, more before the reading. -/
def crowded : Turn where
  format := .json
  bench := .new ⟨70, fun n => 3 * n, 0⟩ (.new (some 0) none) (.ofList [])
  before := [(alone.probe, 9)]
  returned := List.forall_mem_singleton.mpr ⟨⟨8, rfl⟩, ⟨0, rfl⟩⟩
  probe := ⟨"crowded", .constant "other throughput" 8 30, .constant "other latency" 3 900, 4, [], some "late"⟩
  runs := 2

/-- The turn `crowded` with other bodies, and with so many iterations that two groups in each of them are too
many to be counted. -/
def crowdedWith (throughput latency : Body) : Turn :=
  { crowded with probe := { crowded.probe with throughput, latency }, runs := 9223372036854775808 }

/-- The throughput is the same alone and in a crowd.  Of two turns with an overflow one ends behind its first
reading and the other one behind its third. -/
theorem figures_come_from_own_readings_of_samples :
    (alone.readings = ⟨5, 50, 55, 67⟩ ∧ alone.Leaves 4 (alone.probe.calls 1) 55 67 ∧
      alone.measured.result.latencyNs = 0.0) ∧
    (crowded.readings = ⟨147, 192, 210, 1131⟩ ∧ crowded.Leaves 4 (crowded.probe.calls 2) 210 1131) ∧
    (alone.measured.result.throughputNs = crowded.measured.result.throughputNs ∧
      alone.measured.result.gflops = crowded.measured.result.gflops) ∧
    (crowdedWith (.unrolled "overflow" 2) (.constant "unreached" 1 1)).Leaves 1
      [⟨"overflow", 9223372036854775808⟩] 147 147 ∧
    (crowdedWith (.constant "reached" 1 1) (.unrolled "overflow" 2)).Leaves 3
      [⟨"reached", 9223372036854775808⟩, ⟨"overflow", 9223372036854775808⟩] 181 181 := by
  let first := crowdedWith (.unrolled "overflow" 2) (.constant "unreached" 1 1)
  let second := crowdedWith (.constant "reached" 1 1) (.unrolled "overflow" 2)
  have hoverflow : (Body.unrolled "overflow" 2).count 9223372036854775808 = .error .multiplyOverflow := by
    decide
  have hcrowdedReadings : crowded.readings = ⟨147, 192, 210, 1131⟩ := by
    rw [readings, clock_start]
    rfl
  have hfirstReadings : first.readings.throughputStart = 147 := by
    rw [readings, clock_start]
    rfl
  have hsecondReadings : second.readings.latencyStart = 181 := by
    rw [readings, clock_start]
    rfl
  obtain ⟨-, -, -, -, -, halone, hcompared⟩ := alone.figures_come_from_own_readings
  obtain ⟨-, haloneLeaves, -, -, -, -, hzero⟩ := halone 8 0 rfl rfl
  obtain ⟨hthroughput, -⟩ := hcompared crowded
  obtain ⟨hsame, hrate⟩ := hthroughput rfl rfl
  obtain ⟨-, -, -, -, -, hcrowded, -⟩ := crowded.figures_come_from_own_readings
  obtain ⟨-, hcrowdedLeaves, -⟩ := hcrowded 8 3 rfl rfl
  rw [hcrowdedReadings] at hcrowdedLeaves
  obtain ⟨-, -, -, hfirst, -⟩ := first.figures_come_from_own_readings
  obtain ⟨-, hfirstLeaves⟩ := hfirst .multiplyOverflow hoverflow
  rw [hfirstReadings] at hfirstLeaves
  obtain ⟨-, -, -, -, hsecond, -⟩ := second.figures_come_from_own_readings
  obtain ⟨-, hsecondLeaves⟩ := hsecond 1 .multiplyOverflow rfl hoverflow
  rw [hsecondReadings] at hsecondLeaves
  exact ⟨⟨rfl, haloneLeaves, hzero rfl⟩, ⟨hcrowdedReadings, hcrowdedLeaves⟩, ⟨hsame, hrate rfl⟩,
    hfirstLeaves, hsecondLeaves⟩

end Turn

end Runner

end OpTiming
