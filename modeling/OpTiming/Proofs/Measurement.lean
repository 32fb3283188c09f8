import OpTiming.Measurement
import OpTiming.Proofs.ControlFree
import OpTiming.Proofs.Json.Form

/-!
# Result lines

A measurement is reported on one line.  In a line for programs that holds of every measurement, because
the texts in it are escaped; in a line for people it holds as long as the name and the note have no
line feed.
-/

namespace OpTiming

/-- A text stays on one line. -/
def OneLine (text : String) : Prop := '\n' ∉ text.toList

namespace OneLine

@[simp] lemma append_iff {s t : String} : OneLine (s ++ t) ↔ OneLine s ∧ OneLine t := by
  simp [OneLine, not_or]

lemma join {pieces : List String} (h : ∀ piece ∈ pieces, OneLine piece) : OneLine (String.join pieces) := by
  rw [OneLine, String.toList_join, List.mem_flatMap]
  rintro ⟨piece, hpiece, hmem⟩
  exact h piece hpiece hmem

lemma of_controlFree {text : String} (h : ControlFree text.toList) : OneLine text := h.lineFeed_not_mem

end OneLine

namespace Measurement

lemma oneLine_figure (x : Float) : OneLine (figure x) :=
  .of_controlFree (Decimal.controlFree_fixed 6 x)

lemma wellFormed_encode (m : Measurement) : m.encode.WellFormed := by
  refine Json.wellFormed_record ?_
  simp only [List.forall_mem_append, List.forall_mem_cons]
  refine ⟨⟨Json.wellFormed_ofString _, Json.wellFormed_ofFloat _, Json.wellFormed_ofFloat _,
    Json.wellFormed_ofFloat _, Json.wellFormed_ofNat _, nofun⟩, ?_⟩
  cases m.remark with
  | none => nofun
  | some note => exact List.forall_mem_singleton.mpr (Json.wellFormed_ofString note)

/-- **A record has no control character**, whatever the name and the note of the measurement hold. -/
theorem controlFree_compact (m : Measurement) : ControlFree (Json.Form.compact m).toList := by
  rw [Json.Form.compact, String.toList_ofList]
  exact Json.Value.controlFree_compact m.wellFormed_encode

lemma oneLine_text {m : Measurement} (hname : OneLine m.name)
    (hremark : ∀ note, m.remark = some note → OneLine note) : OneLine m.text := by
  have hwords : ∀ word ∈ [" throughput: ", " ns ", " GFlops latency: ", " ns"], '\n' ∉ word.toList := by
    decide
  simp only [List.forall_mem_cons] at hwords
  obtain ⟨hthroughput, hns, hlatency, hend, -⟩ := hwords
  unfold text textWith
  simp only [OneLine.append_iff]
  refine ⟨⟨⟨⟨⟨⟨⟨⟨hname, hthroughput⟩, oneLine_figure _⟩, hns⟩, oneLine_figure _⟩, hlatency⟩,
    oneLine_figure _⟩, hend⟩, ?_⟩
  cases hm : m.remark with
  | none => exact (by decide : '\n' ∉ "".toList)
  | some note =>
      rw [OneLine.append_iff]
      exact ⟨(by decide : '\n' ∉ " : ".toList), hremark note hm⟩

/-- **A measurement is reported on one line** if its name and its note have no line feed. -/
theorem oneLine_line {m : Measurement} (hname : OneLine m.name)
    (hremark : ∀ note, m.remark = some note → OneLine note) (format : OutputFormat) :
    OneLine (m.line format) := by
  cases format with
  | text => exact oneLine_text hname hremark
  | json => exact .of_controlFree m.controlFree_compact

end Measurement

end OpTiming
