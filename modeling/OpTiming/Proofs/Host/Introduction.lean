import OpTiming.Host
import OpTiming.Proofs.Sink

/-!
# The introduction of the host

Before the results stand a few lines about the host: three for people, one of them empty, and two records
for programs.  They are written in pieces and are not flushed, but on a sink with limits a line is written
as a whole or not at all all the same.

* **`hostLines`** — the lines; `map_join_introduction` puts them together from their pieces.
* **`writeLines_cases`** — either all lines are written, or the sink is full after some of them and holds
  just these.
-/

namespace OpTiming

open OpTiming.Action

/-! ## Records -/

/-- A line is the text of a record: of a JSON object. -/
def IsRecord (line : String) : Prop :=
  ∃ members, Json.Value.parse? line.toList = some (.object members)

lemma isRecord_compact {members : List (Json.Spelled × Json.Value)}
    (h : (Json.Value.object members).WellFormed) :
    IsRecord (String.ofList (Json.Value.object members).compact) := by
  refine ⟨members, ?_⟩
  rw [String.toList_ofList]
  exact Json.Value.parse?_compact h

lemma oneLine_compact {v : Json.Value} (h : v.WellFormed) : OneLine (String.ofList v.compact) := by
  refine .of_controlFree ?_
  rw [String.toList_ofList]
  exact Json.Value.controlFree_compact h

lemma oneLine_toString (n : UInt64) : OneLine (toString n) := by
  refine .of_controlFree ?_
  show ControlFree (String.ofList (Nat.toDigits 10 n.toNat)).toList
  rw [String.toList_ofList]
  exact controlFree_toDigits n.toNat

namespace Host

/-! ## Lines -/

/-- The lines about the host before the results. -/
def hostLines (cores core : UInt64) (bandwidth : Float) : OutputFormat → List String
  | .text =>
    [ "there are " ++ toString cores ++ " cores, currently use core id :" ++ toString core,
      "",
      "bandwidth: " ++ Decimal.fixed 6 bandwidth ++ " Gbps" ]
  | .json =>
    [ String.ofList
        (Json.record [("core_id", Json.ofNat core.toNat), ("cores", Json.ofNat cores.toNat)]).compact,
      String.ofList (Json.record [("bandwidth_gbps", Json.ofFloat bandwidth)]).compact ]

lemma map_join_introduction (cores core : UInt64) (bandwidth : Float) (format : OutputFormat) :
    (introduction cores core bandwidth format).map String.join = hostLines cores core bandwidth format := by
  cases format with
  | text => simp [introduction, hostLines, String.join]
  | json => simp [introduction, hostLines, String.join]

lemma wellFormed_cores (cores core : UInt64) :
    (Json.record [("core_id", Json.ofNat core.toNat), ("cores", Json.ofNat cores.toNat)]).WellFormed :=
  Json.wellFormed_record (by simp [Json.wellFormed_ofNat])

lemma wellFormed_bandwidth (bandwidth : Float) :
    (Json.record [("bandwidth_gbps", Json.ofFloat bandwidth)]).WellFormed :=
  Json.wellFormed_record (by simp [Json.wellFormed_ofFloat])

/-- No piece of a line holds a line feed. -/
lemma oneLine_introduction (cores core : UInt64) (bandwidth : Float) (format : OutputFormat) :
    ∀ line ∈ introduction cores core bandwidth format, ∀ piece ∈ line, OneLine piece := by
  cases format with
  | text =>
      have hwords : ∀ word ∈ ["there are ", " cores, currently use core id :", "bandwidth: ", " Gbps"],
          '\n' ∉ word.toList := by
        decide
      simp only [List.forall_mem_cons] at hwords
      obtain ⟨hthere, hcores, hbandwidth, hend, -⟩ := hwords
      simp only [introduction, List.forall_mem_cons]
      exact ⟨⟨hthere, oneLine_toString cores, hcores, oneLine_toString core, nofun⟩, nofun,
        ⟨hbandwidth, .of_controlFree (Decimal.controlFree_fixed 6 bandwidth), hend, nofun⟩, nofun⟩
  | json =>
      simp only [introduction, List.forall_mem_cons]
      exact ⟨⟨oneLine_compact (wellFormed_cores cores core), nofun⟩,
        ⟨oneLine_compact (wellFormed_bandwidth bandwidth), nofun⟩, nofun⟩

lemma isRecord_hostLines (cores core : UInt64) (bandwidth : Float) :
    ∀ line ∈ hostLines cores core bandwidth .json, IsRecord line := by
  simp only [hostLines, List.forall_mem_cons]
  exact ⟨isRecord_compact (wellFormed_cores cores core), isRecord_compact (wellFormed_bandwidth bandwidth),
    nofun⟩

/-! ## Writing -/

variable {capacity badFlush : Option Nat} {lines : List String} {flushes : Nat} {b : Bench}

lemma writePieces_of_begun {part : String} {pieces : List String} (hpieces : ∀ piece ∈ pieces, OneLine piece)
    (h : b.sink.Begun capacity badFlush lines part flushes) :
    ∃ sink, (writePieces pieces).on b = (.ok (), { b with sink }) ∧
      sink.Begun capacity badFlush lines (part ++ String.join pieces) flushes := by
  induction pieces generalizing b part with
  | nil => exact ⟨b.sink, rfl, by simpa [String.join] using h⟩
  | cons piece pieces ih =>
      obtain ⟨hpiece, hpieces⟩ := List.forall_mem_cons.mp hpieces
      have hshown : OneLine (Chunk.ofText piece).shown := hpiece
      obtain ⟨sink₁, hwrite, hbegun⟩ := h.write hshown
      have hbegun' : ({ b with sink := sink₁ } : Bench).sink.Begun capacity badFlush lines (part ++ piece)
        flushes := hbegun
      obtain ⟨sink₂, hrest, hbegun₂⟩ := ih hpieces hbegun'
      refine ⟨sink₂, ?_, ?_⟩
      · simp only [writePieces, on_bind, on_write, hwrite, hrest]
      · rw [String.join_cons, ← String.append_assoc]
        exact hbegun₂

/-- A full sink takes empty pieces at most. -/
lemma writePieces_of_full (h : b.sink.Stands capacity badFlush lines flushes)
    (hfull : capacity = some lines.length) (pieces : List String) :
    (writePieces pieces).on b = (.ok (), b) ∨
      ∃ cause, (writePieces pieces).on b = (.error (.failure (.output cause)), b) := by
  induction pieces with
  | nil => exact Or.inl rfl
  | cons piece pieces ih =>
      simp only [writePieces, on_bind, on_write]
      cases hempty : (Chunk.ofText piece).shown.isEmpty with
      | true =>
          have hwrite : b.sink.write (.ofText piece) = .ok b.sink := by rw [Sink.write, if_pos hempty]
          simp only [hwrite]
          exact ih
      | false =>
          simp only [h.write_of_full hfull hempty]
          exact Or.inr ⟨_, rfl⟩

/-- **The lines are written up to where the sink is full.** -/
theorem writeLines_cases {due : List (List String)} (hdue : ∀ line ∈ due, ∀ piece ∈ line, OneLine piece)
    (h : b.sink.Stands capacity badFlush lines flushes) :
    (∃ n cause sink, n < due.length ∧ capacity = some (lines.length + n) ∧
        (writeLines due).on b = (.error (.failure (.output cause)), { b with sink }) ∧
        sink.Stands capacity badFlush (lines ++ (due.map String.join).take n) flushes) ∨
      ∃ sink, (writeLines due).on b = (.ok (), { b with sink }) ∧
        sink.Stands capacity badFlush (lines ++ due.map String.join) flushes := by
  induction due generalizing lines b with
  | nil => exact Or.inr ⟨b.sink, rfl, by simpa using h⟩
  | cons line due ih =>
      obtain ⟨hline, hdue⟩ := List.forall_mem_cons.mp hdue
      simp only [writeLines, on_bind]
      by_cases hfull : capacity = some lines.length
      · -- the empty line has no piece to refuse, so it is its end that a full sink refuses
        have hlineFeed : b.sink.write .lineFeed = .error (.output "disk full") :=
          h.write_of_full hfull (by decide)
        have hstands : b.sink.Stands capacity badFlush
            (lines ++ ((line :: due).map String.join).take 0) flushes := by
          rwa [List.take_zero, List.append_nil]
        obtain hpieces | ⟨cause, hpieces⟩ := writePieces_of_full h hfull line
        · simp only [hpieces, on_write, hlineFeed]
          exact Or.inl ⟨0, _, b.sink, Nat.succ_pos _, hfull, rfl, hstands⟩
        · simp only [hpieces]
          exact Or.inl ⟨0, cause, b.sink, Nat.succ_pos _, hfull, rfl, hstands⟩
      · obtain ⟨sink₁, hpieces, hbegun⟩ := writePieces_of_begun hline (h.begun hfull)
        obtain ⟨sink₂, hlineFeed, hstands⟩ := hbegun.lineFeed
        rw [String.empty_append] at hstands
        have hstands' : ({ b with sink := sink₂ } : Bench).sink.Stands capacity badFlush
          (lines ++ [String.join line]) flushes := hstands
        simp only [hpieces, on_write, hlineFeed]
        obtain ⟨n, cause, sink, hn, hcapacity, hrun, hstands⟩ | ⟨sink, hrun, hstands⟩ := ih hdue hstands'
        · refine Or.inl ⟨n + 1, cause, sink, Nat.succ_lt_succ hn, ?_, hrun, ?_⟩
          · rw [hcapacity, List.length_append, List.length_singleton, Nat.add_right_comm, Nat.add_assoc]
          · rw [List.map_cons, List.take_succ_cons]
            simpa using hstands
        · exact Or.inr ⟨sink, hrun, by simpa using hstands⟩

end Host

end OpTiming
