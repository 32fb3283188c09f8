import Mathlib.Data.List.Forall2
import OpTiming.Proofs.Sink

/-!
# Two runs side by side

Two runs that do the same on different clocks differ in the figures that they find, and in nothing else.
What this means is said part by part, for whatever a run gives, writes or leaves behind.

* **`Timed.Alike`**, **`Chunk.Alike`** — results of one probe, and the texts of two runs: they differ at most
  in figures that depend on a clock, so with masked figures they are the same.
* **`Temper.Agrees`** — sinks that fail alike, that is, not because of such a figure.  Sinks with limits do
  (`Temper.limited_agrees`).
* **`Bench.Alike`** — alike sinks and the same calls.  Clocks, files and notes may be any.
* **`EndAlike`** — two actions ended alike; a sequence does if its parts do (`EndAlike.bind`).
-/

namespace OpTiming

open OpTiming.Action

/-! ## Results -/

/-- Two results of one probe differ at most in figures behind which there are operations. -/
structure Timed.Alike (t t' : Timed) : Prop where
  name : t.result.name = t'.result.name
  width : t.result.width = t'.result.width
  remark : t.result.remark = t'.result.remark
  throughputOperations : t.throughputOperations = t'.throughputOperations
  latencyOperations : t.latencyOperations = t'.latencyOperations
  throughput : t.throughputOperations = 0 →
    t.result.throughputNs = t'.result.throughputNs ∧ t.result.gflops = t'.result.gflops
  latency : t.latencyOperations = 0 → t.result.latencyNs = t'.result.latencyNs

lemma perOperation_zero (elapsed : Float) : perOperation elapsed 0 = 0.0 := if_pos rfl

lemma rate_zero (width : UInt32) : rate width 0.0 = 0.0 := by
  rw [rate, if_neg (by decide)]

/-- **A probe gives alike results on any two clocks.**  Without operations a figure is zero, whatever the
clock showed. -/
theorem Probe.timed_alike (probe : Probe) (runs : UInt64) (c c' : Clock) :
    (probe.timed runs c).Alike (probe.timed runs c') where
  name := by simp only [timed, Measurement.ofTimings]
  width := by simp only [timed, Measurement.ofTimings]
  remark := by simp only [timed, Measurement.ofTimings]
  throughputOperations := rfl
  latencyOperations := rfl
  throughput := by
    intro hzero
    have hgroups : probe.throughput.groups runs = 0 := hzero
    simp only [timed, Measurement.ofTimings, hgroups, perOperation_zero, and_self]
  latency := by
    intro hzero
    have hgroups : probe.latency.groups runs = 0 := hzero
    simp only [timed, Measurement.ofTimings, hgroups, perOperation_zero]

namespace Timed

variable {t t' : Timed}

/-- Figures that may differ only behind a mask are shown the same, however they are spelled. -/
lemma mask_congr {operations operations' : UInt64} {x x' : Float} (hoperations : operations = operations')
    (hx : operations = 0 → x = x') (spell : Float → String) :
    mask operations (spell x) = mask operations' (spell x') := by
  subst hoperations
  rw [mask, mask]
  split
  next hzero => rw [hx hzero]
  next => rfl

/-- The lines of alike results are the same with masked figures. -/
lemma Alike.maskedLine_eq (h : t.Alike t') (format : OutputFormat) :
    t.maskedLine format = t'.maskedLine format := by
  have hthroughput := mask_congr h.throughputOperations fun hzero => (h.throughput hzero).1
  have hgflops := mask_congr h.throughputOperations fun hzero => (h.throughput hzero).2
  have hlatency := mask_congr h.latencyOperations h.latency
  cases format with
  | text => simp only [maskedLine, h.name, h.remark, hthroughput, hgflops, hlatency]
  | json => simp only [maskedLine, h.name, h.width, h.remark, hthroughput, hgflops, hlatency]

end Timed

/-! ## Texts -/

lemma Chunk.lineFeeds_append (s t : String) : lineFeeds (s ++ t) = lineFeeds s + lineFeeds t := by
  simp [lineFeeds]

lemma Json.Value.compact_object_ne_nil (members : List (Spelled × Value)) : (object members).compact ≠ [] := by
  rcases members with _ | ⟨⟨key, value⟩, members⟩
  · exact List.cons_ne_nil _ _
  · exact List.cons_ne_nil _ _

namespace Measurement

lemma isEmpty_line (m : Measurement) (format : OutputFormat) : (m.line format).isEmpty = false := by
  cases format with
  | text => simp [line, text, textWith]
  | json =>
      have hobject : (Json.Form.encode m).compact ≠ [] := Json.Value.compact_object_ne_nil _
      simpa [line, Json.Form.compact] using hobject

/-- Figures have no line feeds, so only the name and the note have a say in how many a line has. -/
lemma lineFeeds_line_congr {m m' : Measurement} (hname : m.name = m'.name) (hremark : m.remark = m'.remark)
    (format : OutputFormat) : Chunk.lineFeeds (m.line format) = Chunk.lineFeeds (m'.line format) := by
  have hfigure : ∀ x, Chunk.lineFeeds (figure x) = 0 := fun x => (oneLine_figure x).lineFeeds_eq_zero
  have hrecord : ∀ m : Measurement, Chunk.lineFeeds (Json.Form.compact m) = 0 :=
    fun m => (OneLine.of_controlFree m.controlFree_compact).lineFeeds_eq_zero
  cases format with
  | text => simp only [line, text, textWith, Chunk.lineFeeds_append, hfigure, hname, hremark]
  | json => rw [line, line, hrecord, hrecord]

end Measurement

/-- Two texts are the same, or they are the lines of alike results. -/
inductive Chunk.Alike : Chunk → Chunk → Prop
  | same (chunk : Chunk) : Alike chunk chunk
  | results (format : OutputFormat) {t t' : Timed} (h : t.Alike t') :
    Alike ⟨t.result.line format, t.maskedLine format⟩ ⟨t'.result.line format, t'.maskedLine format⟩

namespace Chunk.Alike

variable {chunk chunk' : Chunk}

lemma masked_eq (h : chunk.Alike chunk') : chunk.masked = chunk'.masked := by
  cases h with
  | same => rfl
  | results format h => exact h.maskedLine_eq format

lemma isEmpty_eq (h : chunk.Alike chunk') : chunk.shown.isEmpty = chunk'.shown.isEmpty := by
  cases h with
  | same => rfl
  | results format h => rw [Measurement.isEmpty_line, Measurement.isEmpty_line]

lemma lineFeeds_eq (h : chunk.Alike chunk') : lineFeeds chunk.shown = lineFeeds chunk'.shown := by
  cases h with
  | same => rfl
  | results format h => exact Measurement.lineFeeds_line_congr h.name h.remark format

end Chunk.Alike

lemma Chunk.lineFeedsIn_congr {chunks chunks' : List Chunk} (h : List.Forall₂ Chunk.Alike chunks chunks') :
    lineFeedsIn chunks = lineFeedsIn chunks' := by
  induction h with
  | nil => rfl
  | cons hchunk _ ih => rw [lineFeedsIn, lineFeedsIn, hchunk.lineFeeds_eq, ih]

/-! ## Sinks -/

/-- Two sinks that were given alike texts fail alike. -/
structure Temper.Agrees (temper temper' : Temper) : Prop where
  refusesChunk : ∀ (taken taken' : Array Chunk) (flushes : Nat) (next next' : Chunk),
    List.Forall₂ Chunk.Alike taken.toList taken'.toList → next.Alike next' →
      temper.refusesChunk taken flushes next = temper'.refusesChunk taken' flushes next'
  refusesFlush : ∀ (taken taken' : Array Chunk) (flushes : Nat),
    List.Forall₂ Chunk.Alike taken.toList taken'.toList →
      temper.refusesFlush taken flushes = temper'.refusesFlush taken' flushes

/-- Sinks with the same limits fail alike, because no figure counts for them. -/
lemma Temper.limited_agrees (capacity badFlush : Option Nat) :
    (limited capacity badFlush).Agrees (limited capacity badFlush) where
  refusesChunk := by
    intro taken taken' flushes next next' htaken _
    have hfull : isFull capacity taken = isFull capacity taken' := by
      cases capacity with
      | none => rfl
      | some n => simp only [isFull, Chunk.lineFeedsIn_congr htaken]
    simp only [limited, hfull]
  refusesFlush := fun _ _ _ _ => rfl

namespace Sink

/-- Two sinks took alike texts and will fail alike. -/
structure Alike (s s' : Sink) : Prop where
  chunks : List.Forall₂ Chunk.Alike s.chunks.toList s'.chunks.toList
  flushes : s.flushes = s'.flushes
  temper : s.temper.Agrees s'.temper

lemma alike_new (capacity badFlush : Option Nat) : (new capacity badFlush).Alike (new capacity badFlush) :=
  ⟨.nil, rfl, Temper.limited_agrees capacity badFlush⟩

namespace Alike

variable {s s' : Sink}

/-- Alike sinks hold the same text up to masked figures. -/
theorem maskedText_eq (h : s.Alike s') : s.maskedText = s'.maskedText := by
  have hmasked : s.chunks.toList.map Chunk.masked = s'.chunks.toList.map Chunk.masked := by
    rw [← List.forall₂_eq_eq_eq, List.forall₂_map_left_iff, List.forall₂_map_right_iff]
    exact h.chunks.imp fun _ _ => Chunk.Alike.masked_eq
  rw [maskedText, maskedText, hmasked]

/-- Alike sinks take alike chunks, or refuse them for the same reason. -/
lemma write_cases (h : s.Alike s') {chunk chunk' : Chunk} (hchunk : chunk.Alike chunk') :
    (∃ after after', s.write chunk = .ok after ∧ s'.write chunk' = .ok after' ∧ after.Alike after') ∨
      ∃ failure, s.write chunk = .error failure ∧ s'.write chunk' = .error failure := by
  rw [write, write, ← hchunk.isEmpty_eq, ← h.flushes,
    ← h.temper.refusesChunk _ _ s.flushes _ _ h.chunks hchunk]
  cases chunk.shown.isEmpty with
  | true => exact Or.inl ⟨s, s', rfl, rfl, h⟩
  | false =>
      cases s.temper.refusesChunk s.chunks s.flushes chunk with
      | some reason => exact Or.inr ⟨_, rfl, rfl⟩
      | none =>
          refine Or.inl ⟨_, _, rfl, rfl, ?_, rfl, h.temper⟩
          simp only [Array.toList_push]
          exact List.rel_append h.chunks (.cons hchunk .nil)

/-- Alike sinks are flushed with the same outcome. -/
lemma flush (h : s.Alike s') : s.flush.1 = s'.flush.1 ∧ s.flush.2.Alike s'.flush.2 := by
  rw [Sink.flush, Sink.flush, ← h.flushes, ← h.temper.refusesFlush _ _ s.flushes h.chunks]
  cases s.temper.refusesFlush s.chunks s.flushes with
  | some reason => exact ⟨rfl, h.chunks, rfl, h.temper⟩
  | none => exact ⟨rfl, h.chunks, rfl, h.temper⟩

end Alike

end Sink

/-! ## Benches -/

/-- Two benches have alike sinks, and the same bodies were called on them. -/
structure Bench.Alike (b b' : Bench) : Prop where
  sink : b.sink.Alike b'.sink
  calls : b.calls = b'.calls

/-! ## Actions -/

namespace Action

variable {α β γ δ : Type}

/-- Two actions gave related results or the same failure, and left alike benches behind.  Nothing is said
where one of them met a fault. -/
inductive EndAlike (R : α → β → Prop) : Except Stop α × Bench → Except Stop β × Bench → Prop
  | ok {x : α} {y : β} {b b' : Bench} (hresult : R x y) (hbench : b.Alike b') :
    EndAlike R (.ok x, b) (.ok y, b')
  | failure (failure : Failure) {b b' : Bench} (hbench : b.Alike b') :
    EndAlike R (.error (.failure failure), b) (.error (.failure failure), b')
  | faultLeft (fault : Fault) (b : Bench) (run' : Except Stop β × Bench) :
    EndAlike R (.error (.fault fault), b) run'
  | faultRight (fault : Fault) (b' : Bench) (run : Except Stop α × Bench) :
    EndAlike R run (.error (.fault fault), b')

namespace EndAlike

variable {R : α → β → Prop} {S : γ → δ → Prop} {b b' : Bench}

/-- **Sequences end alike** if their first parts do, and their second parts do wherever the first ones got. -/
lemma bind {action : Action α} {action' : Action β} {next : α → Action γ} {next' : β → Action δ}
    (h : EndAlike R (action.on b) (action'.on b'))
    (hnext : ∀ x y c c', R x y → c.Alike c' → EndAlike S ((next x).on c) ((next' y).on c')) :
    EndAlike S ((action >>= next).on b) ((action' >>= next').on b') := by
  rw [on_bind, on_bind]
  generalize action.on b = run at h
  generalize action'.on b' = run' at h
  cases h with
  | ok hresult hbench => exact hnext _ _ _ _ hresult hbench
  | failure f hbench => exact .failure f hbench
  | faultLeft fault c => exact .faultLeft fault c _
  | faultRight fault c' => exact .faultRight fault c' _

/-- Without a fault two actions have the same outcome. -/
lemma of_faultFree {run : Except Stop α × Bench} {run' : Except Stop β × Bench} (h : EndAlike R run run')
    (hfault : FaultFree run.1) (hfault' : FaultFree run'.1) :
    run.2.Alike run'.2 ∧ ((∃ x y, run.1 = .ok x ∧ run'.1 = .ok y ∧ R x y) ∨
      ∃ failure, run.1 = .error (.failure failure) ∧ run'.1 = .error (.failure failure)) := by
  cases h with
  | ok hresult hbench => exact ⟨hbench, Or.inl ⟨_, _, rfl, rfl, hresult⟩⟩
  | failure f hbench => exact ⟨hbench, Or.inr ⟨f, rfl, rfl⟩⟩
  | faultLeft fault => exact absurd rfl (hfault fault)
  | faultRight fault => exact absurd rfl (hfault' fault)

/-! One rule for each action that writes. -/

lemma write (h : b.Alike b') {chunk chunk' : Chunk} (hchunk : chunk.Alike chunk') :
    EndAlike Eq ((Action.write chunk).on b) ((Action.write chunk').on b') := by
  rw [on_write, on_write]
  obtain ⟨after, after', hwrite, hwrite', halike⟩ | ⟨failure, hwrite, hwrite'⟩ := h.sink.write_cases hchunk
  · rw [hwrite, hwrite']
    exact .ok rfl ⟨halike, h.calls⟩
  · rw [hwrite, hwrite']
    exact .failure failure h

lemma flush (h : b.Alike b') : EndAlike Eq (Action.flush.on b) (Action.flush.on b') := by
  obtain ⟨houtcome, halike⟩ := h.sink.flush
  rw [on_flush, on_flush, ← houtcome]
  cases b.sink.flush.1 with
  | ok x => exact .ok rfl ⟨halike, h.calls⟩
  | error failure => exact .failure failure ⟨halike, h.calls⟩

lemma reportLine (h : b.Alike b') {line line' : Chunk} (hline : line.Alike line') :
    EndAlike Eq ((Runner.reportLine line).on b) ((Runner.reportLine line').on b') := by
  refine bind (bind (write h hline) fun _ _ c c' _ hc => write hc (.same .lineFeed)) ?_
  exact fun _ _ c c' _ hc => flush hc

/-! A probe that is measured and reported. -/

lemma measure (h : b.Alike b') (probe : Probe) (runs : UInt64) :
    EndAlike Timed.Alike ((Runner.measure probe runs).on b) ((Runner.measure probe runs).on b') := by
  obtain hrun | ⟨fault, clock, watch, made, -, hrun⟩ := Runner.measure_cases probe runs b
  · obtain hrun' | ⟨fault, clock, watch, made, -, hrun'⟩ := Runner.measure_cases probe runs b'
    · rw [hrun, hrun']
      refine .ok (probe.timed_alike runs b.clock b'.clock) ⟨h.sink, ?_⟩
      simp only [Bench.measuredBy, Bench.timedBy, h.calls]
    · rw [hrun']
      exact .faultRight fault _ _
  · rw [hrun]
    exact .faultLeft fault _ _

/-- **A probe is run alike on two benches**: the two results are alike, and so are their lines. -/
lemma run (h : b.Alike b') (format : OutputFormat) (probe : Probe) (runs : UInt64) :
    EndAlike Timed.Alike ((Runner.run format probe runs).on b) ((Runner.run format probe runs).on b') := by
  refine bind (measure h probe runs) fun t t' c c' ht hc => ?_
  refine bind (reportLine hc (.results format ht)) fun _ _ d d' _ hd => ?_
  exact .ok ht hd

end EndAlike

end Action

end OpTiming
