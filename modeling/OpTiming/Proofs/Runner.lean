import OpTiming.Proofs.Action
import OpTiming.Runner

/-!
# What a measurement does

A probe is measured by timing its two bodies and reported by one line.  The two halves meet different
trouble, and this file keeps them apart.

* **Measuring** reads the clock and calls bodies.  `Body.lap` says what the stopwatch shows for a body
  on a given clock, and `Probe.timed` which result the two laps make.  A measurement can only end in a
  *fault* of a body (`measure_cases`), and it never touches the sink.
* **Reporting** touches nothing but the sink, and can only end in an *output failure*
  (`reportTimed_cases`).

So the way in which a run ended tells where it ended.
-/

namespace OpTiming

open OpTiming.Action

/-! ## Timing on a clock -/

/-- The nanoseconds that the stopwatch shows for a body, and the clock after the lap. -/
def Body.lap (body : Body) (c : Clock) : Nat × Clock :=
  let (watch, c) := Stopwatch.start c
  watch.elapsed (c.advance body.spend)

/-- The groups that a body reports, zero if it does not return. -/
def Body.groups (body : Body) (runs : UInt64) : UInt64 := (body.count runs).toOption.getD 0

/-- The result of a probe whose measurement starts on a clock. -/
def Probe.timed (probe : Probe) (runs : UInt64) (c : Clock) : Timed :=
  let (throughputTime, c) := probe.throughput.lap c
  let (latencyTime, _) := probe.latency.lap c
  { result := Measurement.ofTimings probe.name probe.width probe.remark
      (Span.toNanoseconds throughputTime, probe.throughput.groups runs)
      (Span.toNanoseconds latencyTime, probe.latency.groups runs)
    throughputOperations := probe.throughput.groups runs
    latencyOperations := probe.latency.groups runs }

/-- The clock after both bodies of a probe were timed on it. -/
def Probe.clockAfter (probe : Probe) (c : Clock) : Clock :=
  (probe.latency.lap (probe.throughput.lap c).2).2

/-- The calls that a measurement of a probe makes. -/
def Probe.calls (probe : Probe) (runs : UInt64) : List Call :=
  [⟨probe.throughput.label, runs⟩, ⟨probe.latency.label, runs⟩]

/-- The bench after a body was timed and returned. -/
def Bench.timedBy (b : Bench) (body : Body) (runs : UInt64) : Bench :=
  { b with clock := (body.lap b.clock).2, watch := (Stopwatch.start b.clock).1
           calls := b.calls.push ⟨body.label, runs⟩ }

/-- The bench after a body was called that did not return: the stopwatch was started, but never read. -/
def Bench.stoppedIn (b : Bench) (body : Body) (runs : UInt64) : Bench :=
  { b with clock := (Stopwatch.start b.clock).2.advance body.spend, watch := (Stopwatch.start b.clock).1
           calls := b.calls.push ⟨body.label, runs⟩ }

/-- The bench after both bodies of a probe were timed and returned. -/
def Bench.measuredBy (b : Bench) (probe : Probe) (runs : UInt64) : Bench :=
  (b.timedBy probe.throughput runs).timedBy probe.latency runs

/-- A body returns for a number of iterations. -/
def Body.Returns (body : Body) (runs : UInt64) : Prop := ∃ groups, body.count runs = .ok groups

lemma Body.constant_returns (label : String) (groups : UInt64) (spend : Nat) (runs : UInt64) :
    (constant label groups spend).Returns runs := ⟨groups, rfl⟩

lemma Body.groups_of_ok {body : Body} {runs groups : UInt64} (h : body.count runs = .ok groups) :
    body.groups runs = groups := by
  simp [Body.groups, h, Except.toOption]

lemma Bench.measuredBy_calls (b : Bench) (probe : Probe) (runs : UInt64) :
    (b.measuredBy probe runs).calls.toList = b.calls.toList ++ probe.calls runs := by
  simp [measuredBy, timedBy, Probe.calls]

namespace Runner

/-! ## Measuring -/

lemma timeBody_of_ok {body : Body} {runs groups : UInt64} (h : body.count runs = .ok groups)
    (b : Bench) :
    (timeBody body runs).on b = (.ok ((body.lap b.clock).1, groups), b.timedBy body runs) := by
  simp only [timeBody, on_bind, on_resetWatch, on_call, h, Except.mapError, on_elapsed, on_pure]
  rfl

lemma timeBody_of_error {body : Body} {runs : UInt64} {fault : Fault}
    (h : body.count runs = .error fault) (b : Bench) :
    (timeBody body runs).on b = (.error (.fault fault), b.stoppedIn body runs) := by
  simp only [timeBody, on_bind, on_resetWatch, on_call, h, Except.mapError]
  rfl

/-- The outcome of a measurement whose bodies both return. -/
lemma measure_of_ok {probe : Probe} {runs g₁ g₂ : UInt64} (h₁ : probe.throughput.count runs = .ok g₁)
    (h₂ : probe.latency.count runs = .ok g₂) (b : Bench) :
    (measure probe runs).on b = (.ok (probe.timed runs b.clock), b.measuredBy probe runs) := by
  simp only [measure, on_bind, timeBody_of_ok h₁, timeBody_of_ok h₂, on_pure, Probe.timed,
    Body.groups_of_ok h₁, Body.groups_of_ok h₂]
  rfl

lemma measure_of_error {probe : Probe} {runs : UInt64} {fault : Fault}
    (h : probe.throughput.count runs = .error fault) (b : Bench) :
    (measure probe runs).on b = (.error (.fault fault), b.stoppedIn probe.throughput runs) := by
  simp only [measure, on_bind, timeBody_of_error h]

lemma measure_of_ok_error {probe : Probe} {runs g₁ : UInt64} {fault : Fault}
    (h₁ : probe.throughput.count runs = .ok g₁) (h₂ : probe.latency.count runs = .error fault) (b : Bench) :
    (measure probe runs).on b =
      (.error (.fault fault), (b.timedBy probe.throughput runs).stoppedIn probe.latency runs) := by
  simp only [measure, on_bind, timeBody_of_ok h₁, timeBody_of_error h₂]

/-- **A measurement gives a result or meets a fault.**  It meets a fault in its first call or in its
second one, and the sink and the notes stay as they were. -/
lemma measure_cases (probe : Probe) (runs : UInt64) (b : Bench) :
    (measure probe runs).on b = (.ok (probe.timed runs b.clock), b.measuredBy probe runs) ∨
      ∃ fault clock watch made, made <+: probe.calls runs ∧
        (measure probe runs).on b = (.error (.fault fault),
          { b with clock, watch, calls := b.calls ++ made }) := by
  rcases h₁ : probe.throughput.count runs with fault | g₁
  · have hmade : [⟨probe.throughput.label, runs⟩] <+: probe.calls runs := by simp [Probe.calls]
    let stopped := b.stoppedIn probe.throughput runs
    refine Or.inr ⟨fault, stopped.clock, stopped.watch, _, hmade, ?_⟩
    rw [measure_of_error h₁]
    simp [stopped, Bench.stoppedIn]
  · rcases h₂ : probe.latency.count runs with fault | g₂
    · let stopped := (b.timedBy probe.throughput runs).stoppedIn probe.latency runs
      refine Or.inr ⟨fault, stopped.clock, stopped.watch, _, List.prefix_rfl, ?_⟩
      rw [measure_of_ok_error h₁ h₂]
      simp [stopped, Bench.stoppedIn, Bench.timedBy, Probe.calls]
    · exact Or.inl (measure_of_ok h₁ h₂ b)

/-! ## Reporting -/

/-- Writing a chunk touches nothing but the sink, and can only end in an output failure. -/
lemma write_cases (chunk : Chunk) (b : Bench) :
    (∃ sink, (write chunk).on b = (.ok (), { b with sink })) ∨
      ∃ cause, (write chunk).on b = (.error (.failure (.output cause)), b) := by
  rw [on_write, Sink.write]
  by_cases hempty : chunk.shown.isEmpty
  · exact Or.inl ⟨b.sink, by rw [if_pos hempty]⟩
  · rw [if_neg hempty]
    cases b.sink.temper.refusesChunk b.sink.chunks b.sink.flushes chunk with
    | none => exact Or.inl ⟨_, rfl⟩
    | some cause => exact Or.inr ⟨cause, rfl⟩

/-- Flushing touches nothing but the sink, and can only end in an output failure. -/
lemma flush_cases (b : Bench) :
    (∃ sink, flush.on b = (.ok (), { b with sink })) ∨
      ∃ cause sink, flush.on b = (.error (.failure (.output cause)), { b with sink }) := by
  rw [on_flush, Sink.flush]
  cases b.sink.temper.refusesFlush b.sink.chunks b.sink.flushes with
  | none => exact Or.inl ⟨_, rfl⟩
  | some cause => exact Or.inr ⟨cause, _, rfl⟩

/-- **A report succeeds or fails for a reason of the sink**, and touches nothing else. -/
lemma reportTimed_cases (format : OutputFormat) (t : Timed) (b : Bench) :
    (∃ sink, (reportTimed format t).on b = (.ok (), { b with sink })) ∨
      ∃ cause sink, (reportTimed format t).on b =
        (.error (.failure (.output cause)), { b with sink }) := by
  simp only [reportTimed, reportLine, writeLine, on_bind]
  obtain ⟨sink₁, h₁⟩ | ⟨cause, h₁⟩ := write_cases ⟨t.result.line format, t.maskedLine format⟩ b
  · rw [h₁]
    obtain ⟨sink₂, h₂⟩ | ⟨cause, h₂⟩ := write_cases .lineFeed { b with sink := sink₁ }
    · simp only [h₂]
      obtain ⟨sink₃, h₃⟩ | ⟨cause, sink₃, h₃⟩ := flush_cases { b with sink := sink₂ }
      · exact Or.inl ⟨sink₃, h₃⟩
      · exact Or.inr ⟨cause, sink₃, h₃⟩
    · simp only [h₂]
      exact Or.inr ⟨cause, sink₁, rfl⟩
  · rw [h₁]
    exact Or.inr ⟨cause, b.sink, rfl⟩

end Runner

end OpTiming
