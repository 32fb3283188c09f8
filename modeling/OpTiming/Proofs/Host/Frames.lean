import OpTiming.Host
import OpTiming.Proofs.Catalog.Schedule

/-!
# Before the catalog

A run on the host does a good deal before the catalog runs: it looks into files, asks for a core,
measures the copy bandwidth and introduces the host.  None of this calls a probe body.

* **`prepare`** — all that comes before the catalog; `execute_eq_prepare_run` cuts a run there.
* **`readyOn`** — the copy bandwidth that is found, and the clock that it leaves.
* **`prepare_cases`** — all that the first part can do: meet a fault, or write the introduction.
* **`execute_calls`** — so the calls of the whole run are a first part of those the catalog is due.
-/

namespace OpTiming.Host

open OpTiming.Action

/-! ## The two parts of a run -/

/-- All that a run does before the catalog. -/
def prepare (ink : Ink) (host : Host) (config : Config) : Action Unit := do
  let core := config.deviceId
  let findings ← preflight host core config.runs
  noteAll (findings.descriptions.map (Terminal.warning ink))
  let refusal ← pin host core
  noteAll (refusal.toList.map fun failure => Terminal.caution ink failure.message)
  resetWatch
  let bandwidth ← copyBandwidth host
  writeLines (introduction host.cores core bandwidth config.format)
  noteIf config.verbose (Terminal.features ink (host.features config).show)
  noteAll ((baselineNote? (host.features config)).toList.map (Terminal.warning ink))

lemma execute_eq_prepare_run (ink : Ink) (host : Host) (config : Config) :
    host.execute ink config =
      prepare ink host config >>= fun _ =>
        Catalog.run ink (host.features config) config Probe.X86.catalog := by
  simp only [execute, prepare, bind_assoc]

/-! ## On a clock -/

/-- The clock after its resolution was found, which takes no reading of a known one. -/
def resolvedOn (host : Host) (c : Clock) : Clock :=
  match host.resolution with
  | some _ => c
  | none => (c.resolution host.patience).2

/-- The copy bandwidth and the clock after it was measured, which takes no reading of a known one. -/
def copiedOn (host : Host) (c : Clock) : Float × Clock :=
  match host.bandwidth with
  | some x => (x, c)
  | none =>
    let (watch, c) := Stopwatch.start c
    let (nanoseconds, c) := watch.elapsed c
    (Copy.rate Copy.bufferBytes (Span.toMilliseconds nanoseconds / (max Copy.repetitions 1).toFloat), c)

/-- The copy bandwidth that a run finds if it starts on a clock, and the clock on which its catalog starts. -/
def readyOn (host : Host) (c : Clock) : Float × Clock :=
  host.copiedOn (Stopwatch.start (host.resolvedOn c)).2

/-! ## What each part does -/

variable {host : Host}

lemma on_inspect {α : Type} (inspection : Preflight.Inspection α) (b : Bench) :
    (inspect inspection).on b = ((inspection.run b.files).1.mapError Stop.fault,
      { b with files := (inspection.run b.files).2 }) := by
  simp only [inspect, on_bind, on_get]
  rcases inspection.run b.files with ⟨fault | x, files⟩ <;> rfl

lemma on_noteAll (texts : List String) (b : Bench) :
    (noteAll texts).on b = (.ok (), { b with notes := b.notes ++ texts }) := by
  induction texts generalizing b with
  | nil => simp [noteAll]
  | cons text texts ih => simp [noteAll, on_bind, on_note, ih]

lemma on_clockResolution (host : Host) (b : Bench) :
    ∃ x, host.clockResolution.on b = (.ok x, { b with clock := host.resolvedOn b.clock }) := by
  rw [clockResolution, resolvedOn]
  cases host.resolution with
  | some x => exact ⟨x, rfl⟩
  | none =>
      simp only [on_bind, on_timing, on_pure]
      exact ⟨_, rfl⟩

/-- The checks meet a fault in the files, or find something. -/
lemma preflight_cases (host : Host) (core runs : UInt64) (b : Bench) :
    (∃ fault files, (host.preflight core runs).on b = (.error (.fault fault), { b with files })) ∨
      ∃ findings files, (host.preflight core runs).on b =
        (.ok findings, { b with files, clock := host.resolvedOn b.clock }) := by
  simp only [preflight, on_bind, on_inspect]
  rcases (Preflight.coreChecks core).run b.files with ⟨fault | found, files⟩
  · exact Or.inl ⟨fault, files, rfl⟩
  · obtain ⟨resolution, hresolution⟩ := on_clockResolution host { b with files }
    simp only [Except.mapError, hresolution, on_pure]
    exact Or.inr ⟨_, files, rfl⟩

/-- A refusal of the core is given as a result like any other. -/
lemma pin_cases (host : Host) (core : UInt64) (b : Bench) :
    ∃ refusal pins, (host.pin core).on b = (.ok refusal, { b with pins }) := by
  rw [pin]
  split
  · exact ⟨_, b.pins, rfl⟩
  · exact ⟨_, b.pins.push core, rfl⟩

lemma on_copyBandwidth (host : Host) (b : Bench) :
    host.copyBandwidth.on b =
      (.ok (host.copiedOn b.clock).1, { b with clock := (host.copiedOn b.clock).2 }) := by
  have hcopies : ∀ copies, Copy.makeCopies Copy.bufferBytes copies = pure () :=
    fun copies => if_neg fun h => absurd h.1 (by decide)
  rw [copyBandwidth, copiedOn]
  cases host.bandwidth with
  | some x => rfl
  | none =>
      simp only [Copy.measure, hcopies, pure_bind]
      rfl

/-! ## What comes before the catalog -/

/-- What a run does before its first line: it gives the copy bandwidth. -/
def preface (ink : Ink) (host : Host) (config : Config) : Action Float := do
  let findings ← preflight host config.deviceId config.runs
  noteAll (findings.descriptions.map (Terminal.warning ink))
  let refusal ← pin host config.deviceId
  noteAll (refusal.toList.map fun failure => Terminal.caution ink failure.message)
  resetWatch
  copyBandwidth host

/-- The checks meet a fault; or the copy bandwidth is found, and of what counts only the clock has moved. -/
lemma preface_cases (ink : Ink) (host : Host) (config : Config) (b : Bench) :
    (∃ fault files, (preface ink host config).on b = (.error (.fault fault), { b with files })) ∨
      ∃ ready, (preface ink host config).on b = (.ok (host.readyOn b.clock).1, ready) ∧
        ready.clock = (host.readyOn b.clock).2 ∧ ready.sink = b.sink ∧ ready.calls = b.calls := by
  simp only [preface, on_bind]
  obtain ⟨fault, files, hpreflight⟩ | ⟨findings, files, hpreflight⟩ :=
    preflight_cases host config.deviceId config.runs b
  · simp only [hpreflight]
    exact Or.inl ⟨fault, files, rfl⟩
  · simp only [hpreflight, on_noteAll]
    obtain ⟨refusal, pins, hpin⟩ := pin_cases host config.deviceId
      { b with files, clock := host.resolvedOn b.clock
               notes := b.notes ++ findings.descriptions.map (Terminal.warning ink) }
    simp only [hpin, on_resetWatch, on_copyBandwidth]
    exact Or.inr ⟨_, rfl, rfl, rfl, rfl⟩

lemma prepare_eq_preface (ink : Ink) (host : Host) (config : Config) :
    prepare ink host config = (do
      let bandwidth ← preface ink host config
      writeLines (introduction host.cores config.deviceId bandwidth config.format)
      noteIf config.verbose (Terminal.features ink (host.features config).show)
      noteAll ((baselineNote? (host.features config)).toList.map (Terminal.warning ink))) := by
  simp only [prepare, preface, bind_assoc]

/-- The introduction of a run that starts on a clock. -/
def introductionOn (host : Host) (config : Config) (c : Clock) : List (List String) :=
  introduction host.cores config.deviceId (host.readyOn c).1 config.format

/-- **What can come before the catalog.**  The checks meet a fault.  Or the introduction is written from a
bench on which nothing that counts has changed but the clock; if that succeeds, nothing but notes follow. -/
lemma prepare_cases (ink : Ink) (host : Host) (config : Config) (b : Bench) :
    (∃ fault files, (prepare ink host config).on b = (.error (.fault fault), { b with files })) ∨
      ∃ ready, ready.clock = (host.readyOn b.clock).2 ∧ ready.sink = b.sink ∧ ready.calls = b.calls ∧
        (∀ stop after, (writeLines (host.introductionOn config b.clock)).on ready = (.error stop, after) →
          (prepare ink host config).on b = (.error stop, after)) ∧
        ∀ after, (writeLines (host.introductionOn config b.clock)).on ready = (.ok (), after) →
          ∃ notes, (prepare ink host config).on b = (.ok (), { after with notes }) := by
  obtain ⟨fault, files, hpreface⟩ | ⟨ready, hpreface, hclock, hsink, hcalls⟩ :=
    preface_cases ink host config b
  · exact Or.inl ⟨fault, files, by rw [prepare_eq_preface, on_bind, hpreface]⟩
  · refine Or.inr ⟨ready, hclock, hsink, hcalls, ?_⟩
    simp only [prepare_eq_preface, on_bind, hpreface, on_noteIf, on_noteAll, introductionOn]
    constructor
    · intro stop after hlines
      rw [hlines]
    · intro after hlines
      rw [hlines]
      exact ⟨_, rfl⟩

/-! ## The frame of the first part -/

lemma writePieces_keeps_calls (pieces : List String) : Keeps Bench.calls (writePieces pieces) := by
  induction pieces with
  | nil => exact Keeps.pure ()
  | cons piece pieces ih => exact (Keeps.write (fun _ _ => rfl) (.ofText piece)).bind fun _ => ih

lemma writeLines_keeps_calls (lines : List (List String)) : Keeps Bench.calls (writeLines lines) := by
  induction lines with
  | nil => exact Keeps.pure ()
  | cons line lines ih =>
      exact (writePieces_keeps_calls line).bind fun _ =>
        (Keeps.write (fun _ _ => rfl) .lineFeed).bind fun _ => ih

/-- **What comes before the catalog calls no body.** -/
lemma prepare_keeps_calls (ink : Ink) (host : Host) (config : Config) :
    Keeps Bench.calls (prepare ink host config) := by
  intro b
  obtain ⟨fault, files, hrun⟩ | ⟨ready, -, -, hcalls, hstops, hgoes⟩ := prepare_cases ink host config b
  · rw [hrun]
  · have hkept := writeLines_keeps_calls (host.introductionOn config b.clock) ready
    rcases hlines : (writeLines (host.introductionOn config b.clock)).on ready with ⟨stop | ⟨⟩, after⟩
    · rw [hlines, hcalls] at hkept
      rw [hstops stop after hlines]
      exact hkept
    · rw [hlines, hcalls] at hkept
      obtain ⟨notes, hrun⟩ := hgoes after hlines
      rw [hrun]
      exact hkept

/-! ## The calls of a run -/

/-- **However a run on the host ends, it has made some first part of the calls that its catalog is
due.** -/
lemma execute_calls (ink : Ink) (host : Host) (config : Config) (b : Bench) :
    ∃ made, made <+: Catalog.schedule (host.features config) config Probe.X86.catalog ∧
      ((host.execute ink config).on b).2.calls.toList = b.calls.toList ++ made := by
  have hkeeps := prepare_keeps_calls ink host config b
  rw [execute_eq_prepare_run, on_bind]
  rcases hprepare : (prepare ink host config).on b with ⟨stop | ⟨⟩, mid⟩
  · rw [hprepare] at hkeeps
    have hkept : mid.calls = b.calls := hkeeps
    exact ⟨[], List.nil_prefix, by rw [hkept, List.append_nil]⟩
  · rw [hprepare] at hkeeps
    have hkept : mid.calls = b.calls := hkeeps
    rw [← hkept]
    exact Catalog.run_calls ink (host.features config) config Probe.X86.catalog mid

end OpTiming.Host
