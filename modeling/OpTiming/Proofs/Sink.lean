import OpTiming.Proofs.Measurement
import OpTiming.Proofs.Runner

/-!
# Lines on a sink

A sink with limits takes so many line feeds and fails one of its flushes.  As long as it is only given
whole lines, what it holds is described by those lines and by how often it was flushed: it
**`Stands`** there.

* **`Begun`** — where it is in the middle of a line.  A sink that is not full has room for all of a line,
  however many pieces it comes in (`Begun.write`, `Begun.lineFeed`).
* **`Stands.writeLine_cases`** — a full sink refuses a line and stays as it was; any other one holds the
  line afterwards.  There is nothing in between: a refused line leaves no part of itself behind.
* **`Stands.reportLine_cases`** — a line is refused, or it is written and the flush fails, or it is written
  and the flush succeeds.
* **`Works`** — a sink that takes whatever it is given.  On it every probe
  is reported whose bodies return (`Runner.run_on_working_sink`).
-/

namespace OpTiming

open OpTiming.Action

/-- Lines, each with its line feed. -/
def asLines (lines : List String) : String := String.join (lines.map (· ++ "\n"))

@[simp] lemma asLines_append (lines lines' : List String) :
    asLines (lines ++ lines') = asLines lines ++ asLines lines' := by
  simp [asLines, String.join_append]

lemma asLines_singleton (line : String) : asLines [line] = line ++ "\n" := by
  simp [asLines, String.join]

lemma asLines_cons (line : String) (lines : List String) :
    asLines (line :: lines) = line ++ "\n" ++ asLines lines := by
  rw [← List.singleton_append, asLines_append, asLines_singleton]

/-- Lines that stay lines are what their text splits into; behind the last line feed nothing is left. -/
lemma splitOn_asLines {lines : List String} (h : ∀ line ∈ lines, OneLine line) :
    (asLines lines).toList.splitOn '\n' = lines.map String.toList ++ [[]] := by
  induction lines with
  | nil => rfl
  | cons line lines ih =>
      obtain ⟨hline, hlines⟩ := List.forall_mem_cons.mp h
      have htext : (asLines (line :: lines)).toList = line.toList ++ '\n' :: (asLines lines).toList := by
        simp [asLines_cons]
      rw [htext, List.splitOn_append_cons_self_of_not_mem hline, ih hlines, List.map_cons, List.cons_append]

lemma count_asLines {lines : List String} (h : ∀ line ∈ lines, OneLine line) :
    (asLines lines).toList.count '\n' = lines.length := by
  induction lines with
  | nil => rfl
  | cons line lines ih =>
      obtain ⟨hline, hlines⟩ := List.forall_mem_cons.mp h
      have hnone : line.toList.count '\n' = 0 := List.count_eq_zero.mpr hline
      simp [asLines_cons, hnone, ih hlines]

lemma Chunk.lineFeedsIn_append (chunks chunks' : List Chunk) :
    lineFeedsIn (chunks ++ chunks') = lineFeedsIn chunks + lineFeedsIn chunks' := by
  induction chunks with
  | nil => simp [lineFeedsIn]
  | cons chunk chunks ih => simp only [List.cons_append, lineFeedsIn, ih, Nat.add_assoc]

lemma OneLine.lineFeeds_eq_zero {line : String} (h : OneLine line) : Chunk.lineFeeds line = 0 :=
  List.count_eq_zero.mpr h

namespace Sink

/-! ## Accepted chunks -/

/-- The sink after it took a chunk. -/
def taking (s : Sink) (chunk : Chunk) : Sink :=
  if chunk.shown.isEmpty then s else { s with chunks := s.chunks.push chunk }

variable (s : Sink) (chunk : Chunk)

@[simp] lemma taking_temper : (s.taking chunk).temper = s.temper := by
  rw [taking]
  split <;> rfl

@[simp] lemma taking_flushes : (s.taking chunk).flushes = s.flushes := by
  rw [taking]
  split <;> rfl

@[simp] lemma taking_text : (s.taking chunk).text = s.text ++ chunk.shown := by
  rw [taking]
  split
  next hempty =>
    rw [String.isEmpty_iff.mp hempty]
    simp
  next => simp [text, String.join_append]

@[simp] lemma taking_written : (s.taking chunk).written = s.written + Chunk.lineFeeds chunk.shown := by
  rw [taking]
  split
  next hempty =>
    rw [String.isEmpty_iff.mp hempty]
    rfl
  next => simp [written, Chunk.lineFeedsIn_append, Chunk.lineFeedsIn]

variable {s chunk} {capacity badFlush : Option Nat}

lemma write_of_room (htemper : s.temper = .limited capacity badFlush)
    (hroom : Temper.isFull capacity s.chunks = false) : s.write chunk = .ok (s.taking chunk) := by
  rw [write, taking]
  split
  next => rfl
  next => simp [htemper, Temper.limited, hroom]

/-! ## Where a sink stands -/

/-- A sink with limits holds these lines, and was flushed so often. -/
structure Stands (capacity badFlush : Option Nat) (lines : List String) (flushes : Nat) (s : Sink) :
    Prop where
  temper : s.temper = .limited capacity badFlush
  text : s.text = asLines lines
  written : s.written = lines.length
  within : ∀ m, capacity = some m → lines.length ≤ m
  flushes : s.flushes = flushes

lemma stands_new (capacity badFlush : Option Nat) :
    (new capacity badFlush).Stands capacity badFlush [] 0 where
  temper := rfl
  text := rfl
  written := rfl
  within := fun m _ => Nat.zero_le m
  flushes := rfl

namespace Stands

variable {lines : List String} {flushes : Nat}

/-- A sink is full iff it holds as many lines as it takes. -/
lemma isFull_iff (h : s.Stands capacity badFlush lines flushes) :
    Temper.isFull capacity s.chunks = true ↔ capacity = some lines.length := by
  have hwritten : Chunk.lineFeedsIn s.chunks.toList = lines.length := h.written
  cases hcapacity : capacity with
  | none => simp [Temper.isFull]
  | some m =>
      have hwithin := h.within m hcapacity
      simp only [Temper.isFull, hwritten, decide_eq_true_eq, Option.some.injEq]
      omega

lemma write_of_full (h : s.Stands capacity badFlush lines flushes)
    (hfull : capacity = some lines.length) {chunk : Chunk} (hchunk : chunk.shown.isEmpty = false) :
    s.write chunk = .error (.output "disk full") := by
  rw [write, hchunk, h.temper]
  simp [Temper.limited, h.isFull_iff.mpr hfull]

/-- A flush changes nothing but the count of flushes. -/
lemma flushed (h : s.Stands capacity badFlush lines flushes) :
    s.flush.2.Stands capacity badFlush lines (flushes + 1) := by
  have hflush : s.flush.2 = { s with flushes := s.flushes + 1 } := by
    rw [flush]
    split <;> rfl
  rw [hflush]
  exact ⟨h.temper, h.text, h.written, h.within, by rw [h.flushes]⟩

lemma flush_of_bad (h : s.Stands capacity badFlush lines flushes) (hbad : badFlush = some (flushes + 1)) :
    s.flush.1 = .error (.output "closed") := by
  simp [flush, h.temper, Temper.limited, h.flushes, hbad]

lemma flush_of_good (h : s.Stands capacity badFlush lines flushes)
    (hgood : badFlush ≠ some (flushes + 1)) : s.flush.1 = .ok () := by
  simp [flush, h.temper, Temper.limited, h.flushes, hgood]

end Stands

/-! ## In the middle of a line -/

/-- A sink with limits that is not full holds these lines and the first part of another one. -/
structure Begun (capacity badFlush : Option Nat) (lines : List String) (part : String) (flushes : Nat)
    (s : Sink) : Prop where
  temper : s.temper = .limited capacity badFlush
  text : s.text = asLines lines ++ part
  written : s.written = lines.length
  room : ∀ m, capacity = some m → lines.length < m
  flushes : s.flushes = flushes

variable {lines : List String} {part : String} {flushes : Nat}

/-- A sink that is not full is at the start of a line. -/
lemma Stands.begun (h : s.Stands capacity badFlush lines flushes) (hroom : capacity ≠ some lines.length) :
    s.Begun capacity badFlush lines "" flushes where
  temper := h.temper
  text := by rw [h.text, String.append_empty]
  written := h.written
  room := fun m hm => Nat.lt_of_le_of_ne (h.within m hm) fun heq => hroom (by rw [hm, heq])
  flushes := h.flushes

namespace Begun

lemma write_eq (h : s.Begun capacity badFlush lines part flushes) (chunk : Chunk) :
    s.write chunk = .ok (s.taking chunk) := by
  refine write_of_room h.temper ?_
  have hwritten : Chunk.lineFeedsIn s.chunks.toList = lines.length := h.written
  cases hcapacity : capacity with
  | none => rfl
  | some m =>
      have hroom := h.room m hcapacity
      simp only [Temper.isFull, hwritten, decide_eq_false_iff_not]
      omega

/-- A piece without line feed is taken, and the sink still is in the middle of the line. -/
lemma write (h : s.Begun capacity badFlush lines part flushes) {piece : Chunk} (hpiece : OneLine piece.shown) :
    ∃ s', s.write piece = .ok s' ∧ s'.Begun capacity badFlush lines (part ++ piece.shown) flushes := by
  refine ⟨s.taking piece, h.write_eq piece, ?_, ?_, ?_, h.room, ?_⟩
  · rw [taking_temper, h.temper]
  · rw [taking_text, h.text, String.append_assoc]
  · rw [taking_written, h.written, hpiece.lineFeeds_eq_zero, Nat.add_zero]
  · rw [taking_flushes, h.flushes]

/-- The end of the line is taken, and the sink stands at one line more. -/
lemma lineFeed (h : s.Begun capacity badFlush lines part flushes) :
    ∃ s', s.write .lineFeed = .ok s' ∧ s'.Stands capacity badFlush (lines ++ [part]) flushes := by
  refine ⟨s.taking .lineFeed, h.write_eq .lineFeed, ?_, ?_, ?_, ?_, ?_⟩
  · rw [taking_temper, h.temper]
  · rw [taking_text, h.text, asLines_append, asLines_singleton, String.append_assoc]
    rfl
  · rw [taking_written, h.written, List.length_append]
    rfl
  · intro m hm
    rw [List.length_append]
    exact h.room m hm
  · rw [taking_flushes, h.flushes]

end Begun

/-! ## Writing lines -/

namespace Stands

variable {b : Bench}

/-- **A line is written whole or not at all.** -/
lemma writeLine_cases (h : b.sink.Stands capacity badFlush lines flushes) {line : Chunk}
    (hline : OneLine line.shown) :
    (capacity = some lines.length ∧
        ∃ cause, (writeLine line).on b = (.error (.failure (.output cause)), b)) ∨
      (capacity ≠ some lines.length ∧
        ∃ sink, (writeLine line).on b = (.ok (), { b with sink }) ∧
          sink.Stands capacity badFlush (lines ++ [line.shown]) flushes) := by
  by_cases hfull : capacity = some lines.length
  · refine Or.inl ⟨hfull, "disk full", ?_⟩
    have hlineFeed : b.sink.write .lineFeed = .error (.output "disk full") :=
      h.write_of_full hfull (by decide)
    cases hempty : line.shown.isEmpty with
    | true =>
        have hwrite : b.sink.write line = .ok b.sink := by rw [Sink.write, if_pos hempty]
        simp only [writeLine, on_bind, on_write, hwrite, hlineFeed]
    | false => simp only [writeLine, on_bind, on_write, h.write_of_full hfull hempty]
  · have hbegun := h.begun hfull
    obtain ⟨s₁, hwrite, hbegun⟩ := hbegun.write hline
    obtain ⟨s₂, hlineFeed, hstands⟩ := hbegun.lineFeed
    rw [String.empty_append] at hstands
    refine Or.inr ⟨hfull, s₂, ?_, hstands⟩
    simp only [writeLine, on_bind, on_write, hwrite, hlineFeed]

/-- **A line is reported in one of three ways.**  It is refused; or it is written and the flush fails; or
it is written and flushed. -/
lemma reportLine_cases (h : b.sink.Stands capacity badFlush lines flushes) {line : Chunk}
    (hline : OneLine line.shown) :
    (capacity = some lines.length ∧
        ∃ cause, (Runner.reportLine line).on b = (.error (.failure (.output cause)), b)) ∨
      (badFlush = some (flushes + 1) ∧ ∃ cause sink,
        (Runner.reportLine line).on b = (.error (.failure (.output cause)), { b with sink }) ∧
          sink.Stands capacity badFlush (lines ++ [line.shown]) (flushes + 1)) ∨
      (badFlush ≠ some (flushes + 1) ∧ ∃ sink,
        (Runner.reportLine line).on b = (.ok (), { b with sink }) ∧
          sink.Stands capacity badFlush (lines ++ [line.shown]) (flushes + 1)) := by
  simp only [Runner.reportLine, on_bind]
  obtain ⟨hfull, cause, hrun⟩ | ⟨-, sink, hrun, hstands⟩ := h.writeLine_cases hline
  · exact Or.inl ⟨hfull, cause, by rw [hrun]⟩
  · simp only [hrun, on_flush]
    by_cases hbad : badFlush = some (flushes + 1)
    · refine Or.inr (Or.inl ⟨hbad, "closed", sink.flush.2, ?_, hstands.flushed⟩)
      rw [hstands.flush_of_bad hbad]
      rfl
    · refine Or.inr (Or.inr ⟨hbad, sink.flush.2, ?_, hstands.flushed⟩)
      rw [hstands.flush_of_good hbad]
      rfl

end Stands

/-! ## Working sinks -/

/-- No chunk is refused and no flush fails. -/
structure Works (s : Sink) : Prop where
  takes : ∀ taken flushes chunk, s.temper.refusesChunk taken flushes chunk = none
  flushed : ∀ taken flushes, s.temper.refusesFlush taken flushes = none

lemma works_new : (new none none).Works := ⟨fun _ _ _ => rfl, fun _ _ => rfl⟩

namespace Works

variable {s : Sink}

lemma write (h : s.Works) (chunk : Chunk) : s.write chunk = .ok (s.taking chunk) := by
  rw [Sink.write, taking, h.takes]
  split <;> rfl

lemma taking (h : s.Works) (chunk : Chunk) : (s.taking chunk).Works := by
  obtain ⟨htakes, hflushed⟩ := h
  constructor
  · rw [taking_temper]
    exact htakes
  · rw [taking_temper]
    exact hflushed

lemma flush (h : s.Works) : s.flush = (.ok (), { s with flushes := s.flushes + 1 }) := by
  rw [Sink.flush, h.flushed]

/-- A line is reported to a working sink, which goes on working. -/
lemma reportLine {b : Bench} (h : b.sink.Works) (line : Chunk) :
    ∃ sink, (Runner.reportLine line).on b = (.ok (), { b with sink }) ∧ sink.Works ∧
      sink.text = b.sink.text ++ asLines [line.shown] := by
  have hline := h.taking line
  have hend := hline.taking .lineFeed
  let reported := (b.sink.taking line).taking .lineFeed
  refine ⟨{ reported with flushes := reported.flushes + 1 }, ?_, ⟨hend.takes, hend.flushed⟩, ?_⟩
  · simp only [Runner.reportLine, writeLine, on_bind, on_write, h.write, hline.write, on_flush, hend.flush]
    rfl
  · show ((b.sink.taking line).taking .lineFeed).text = _
    rw [taking_text, taking_text, asLines_singleton, String.append_assoc]
    rfl

end Works

end Sink

namespace Runner

/-- Both bodies of a probe return. -/
def Returns : Probe × UInt64 → Prop
  | (probe, runs) => probe.throughput.Returns runs ∧ probe.latency.Returns runs

/-- A probe whose bodies return is measured and its line written. -/
lemma run_on_working_sink (format : OutputFormat) {probe : Probe} {runs : UInt64}
    (hreturns : Returns (probe, runs)) {b : Bench} (h : b.sink.Works) :
    ∃ after, (run format probe runs).on b = (.ok (probe.timed runs b.clock), after) ∧
      after.clock = probe.clockAfter b.clock ∧ after.sink.Works ∧
      after.sink.text = b.sink.text ++ asLines [(probe.timed runs b.clock).result.line format] := by
  obtain ⟨⟨g₁, h₁⟩, g₂, h₂⟩ := hreturns
  have hmeasured : (b.measuredBy probe runs).sink.Works := h
  obtain ⟨sink, hreport, hworks, htext⟩ := hmeasured.reportLine
    ⟨(probe.timed runs b.clock).result.line format, (probe.timed runs b.clock).maskedLine format⟩
  refine ⟨{ b.measuredBy probe runs with sink }, ?_, rfl, hworks, htext⟩
  simp only [run, on_bind, measure_of_ok h₁ h₂, reportTimed, hreport, on_pure]

end Runner

end OpTiming
