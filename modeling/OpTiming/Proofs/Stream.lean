import OpTiming.Proofs.Catalog.Table
import OpTiming.Proofs.RoundTrip
import OpTiming.Proofs.Sink

/-!
# Streams of records

Probes that are run one after the other write a record each.  A line feed ends every record and occurs in
none, so whoever reads the stream finds the records again by looking for line feeds, and reads each one back
as the result that it was written for.

* **`timings`** — the results of probes that are run in order.
* **`mapM_run_on_working_sink`** — these results are given, and their lines are written, in either format.
* **`records_read_back`** — the stream of records, taken apart again.
-/

namespace OpTiming

open OpTiming.Action OpTiming.Json

/-! ## Probes run in order -/

namespace Runner

/-- The results of probes, each with its number of loop iterations, that are measured one after the other;
the first one starts on a clock. -/
def timings : List (Probe × UInt64) → Clock → List Timed
  | [], _ => []
  | (probe, runs) :: rest, c => probe.timed runs c :: timings rest (probe.clockAfter c)

lemma timings_carry (probes : List (Probe × UInt64)) (c : Clock) :
    List.Forall₂ (fun row t => Catalog.Carries row.1 t.result) probes (timings probes c) := by
  induction probes generalizing c with
  | nil => exact .nil
  | cons row probes ih => exact .cons (Catalog.carries_timed row.1 row.2 c) (ih _)

/-- **Probes that are run in order** on a working sink give their results and write a line for each. -/
lemma mapM_run_on_working_sink (format : OutputFormat) {probes : List (Probe × UInt64)}
    (hreturns : ∀ row ∈ probes, Returns row) {b : Bench} (h : b.sink.Works) :
    ∃ after, (probes.mapM fun (probe, runs) => run format probe runs).on b =
        (.ok (timings probes b.clock), after) ∧
      after.sink.text =
        b.sink.text ++ asLines ((timings probes b.clock).map fun t => t.result.line format) := by
  -- the first probe leaves a working sink and the clock on which the second one starts
  induction probes generalizing b with
  | nil => exact ⟨b, rfl, by simp [timings, asLines]⟩
  | cons row probes ih =>
      obtain ⟨hrow, hprobes⟩ := List.forall_mem_cons.mp hreturns
      obtain ⟨mid, hrun, hclock, hworks, htext⟩ := run_on_working_sink format hrow h
      obtain ⟨after, hrest, hafter⟩ := ih hprobes hworks
      rw [hclock] at hrest hafter
      refine ⟨after, ?_, ?_⟩
      · simp only [List.mapM_cons, on_bind, hrun, hrest, on_pure, timings]
      · rw [hafter, htext, asLines_singleton, timings, List.map_cons, asLines_cons, String.append_assoc]

/-! ## Records found again -/

lemma oneLine_records (timed : List Timed) :
    ∀ line ∈ timed.map fun t => t.result.line .json, OneLine line := by
  rw [List.forall_mem_map]
  exact fun t _ => .of_controlFree t.result.controlFree_compact

lemma parse?_record {t : Timed} (h : ∀ x ∈ t.result.figures, Literal.ReadsBack x) :
    Form.parse? (t.result.line .json) = some t.result :=
  (Measurement.faithful h).roundTrips.1

/-- **Records are told apart by line feeds and read back.**  Probes that are run in order write one line
feed each, whatever their names and notes hold.  If the literals of all figures read back, then what stands
before each line feed is read back as the result that was given, in order, and nothing stands behind the
last one. -/
theorem records_read_back {probes : List (Probe × UInt64)} (hreturns : ∀ row ∈ probes, Returns row)
    {b : Bench} (hsink : b.sink.Works) :
    let timed := timings probes b.clock
    List.Forall₂ (fun row t => Catalog.Carries row.1 t.result) probes timed ∧
      ∃ (after : Bench) (out : String),
        (probes.mapM fun (probe, runs) => run .json probe runs).on b = (.ok timed, after) ∧
        after.sink.text = b.sink.text ++ out ∧ out.toList.count '\n' = probes.length ∧
        ((∀ t ∈ timed, ∀ x ∈ t.result.figures, Literal.ReadsBack x) →
          ∃ pieces : List String, out.toList.splitOn '\n' = pieces.map String.toList ++ [[]] ∧
            pieces.map Form.parse? = timed.map fun t => some t.result) := by
  intro timed
  have hcarry : List.Forall₂ (fun row t => Catalog.Carries row.1 t.result) probes timed :=
    timings_carry probes b.clock
  obtain ⟨after, hrun, htext⟩ := mapM_run_on_working_sink .json hreturns hsink
  refine ⟨hcarry, after, asLines (timed.map fun t => t.result.line .json), hrun, htext, ?_, ?_⟩
  · rw [count_asLines (oneLine_records timed), List.length_map, hcarry.length_eq]
  · intro hfigures
    refine ⟨_, splitOn_asLines (oneLine_records timed), ?_⟩
    rw [List.map_map]
    refine List.map_congr_left fun t ht => ?_
    rw [Function.comp_apply, parse?_record (hfigures t ht)]

/-- Two probes whose texts hold line feeds, quotes and other control characters. -/
def awkwardProbes : List (Probe × UInt64) :=
  [ (⟨"a\nb", .constant "first throughput" 8 5, .constant "first latency" 4 20, 4, [], some "\"\r\n\""⟩, 1),
    (⟨"\x00\\\n", .unrolled "second throughput" 8, .unrolled "second latency" 2, 4294967295, [], some ""⟩, 4) ]

/-- The records of these probes are the two pieces that their stream splits into. -/
theorem records_read_back_of_sample :
    ∃ (after : Bench) (out : String), (awkwardProbes.mapM fun (probe, runs) => run .json probe runs).on
        (.new (.ticking 0 5 1) (.new none none) (.ofList [])) =
          (.ok (timings awkwardProbes (.ticking 0 5 1)), after) ∧
      out.toList.count '\n' = 2 ∧
      ∃ pieces : List String, out.toList.splitOn '\n' = pieces.map String.toList ++ [[]] ∧
        pieces.map Form.parse? = (timings awkwardProbes (.ticking 0 5 1)).map fun t => some t.result := by
  have hreturns : ∀ row ∈ awkwardProbes, Returns row := by
    simp only [awkwardProbes, List.forall_mem_cons]
    exact ⟨⟨⟨8, rfl⟩, ⟨4, rfl⟩⟩, ⟨⟨32, rfl⟩, ⟨8, rfl⟩⟩, nofun⟩
  have hfigures : ∀ t ∈ timings awkwardProbes (.ticking 0 5 1), ∀ x ∈ t.result.figures,
      Literal.ReadsBack x := by
    decide +kernel
  have hsink : (Bench.new (.ticking 0 5 1) (.new none none) (.ofList [])).sink.Works := Sink.works_new
  obtain ⟨-, after, out, hrun, -, hcount, hpieces⟩ := records_read_back hreturns hsink
  exact ⟨after, out, hrun, hcount, hpieces hfigures⟩

end Runner

end OpTiming
