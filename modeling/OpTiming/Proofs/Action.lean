import Mathlib.Tactic.Common
import OpTiming.Bench

/-!
# Running actions

What an action does to a bench, as equations.  An action gives a result or stops, and leaves a bench
behind in either case; everything proved about a run is put together from two kinds of facts.

* **Equations**, one for each action of the library.  `on_bind` says how two actions run one after the
  other, and `on_note`, `on_call`, `on_write`, `on_flush` and their like say what a single action gives
  and which part of the bench it changes.
* **Frames.**  `Keeps view action` says that an action leaves a view of the bench as it was, *however
  it ends*.  Frames are closed under sequence (`Keeps.bind`), so a long action keeps whatever its
  parts keep.
-/

namespace OpTiming.Action

variable {α β γ : Type}

/-! ## One action after another -/

@[simp] lemma on_pure (x : α) (b : Bench) : (pure x : Action α).on b = (.ok x, b) := rfl

/-- **A stop ends a sequence.**  The second action only runs if the first one gives a result. -/
lemma on_bind (action : Action α) (next : α → Action β) (b : Bench) :
    (action >>= next).on b = match action.on b with
      | (.ok x, after) => (next x).on after
      | (.error stop, after) => (.error stop, after) := by
  show (StateT.bind action (ExceptT.bindCont next)) b = _
  rcases h : action b with ⟨outcome, after⟩
  cases outcome with
  | ok x => simp only [StateT.bind, h, ExceptT.bindCont, on, ExceptT.run]; rfl
  | error stop => simp only [StateT.bind, h, ExceptT.bindCont, on, ExceptT.run]; rfl

/-- A sequence gives a result iff both of its parts do. -/
lemma on_bind_eq_ok {action : Action α} {next : α → Action β} {b after : Bench} {y : β} :
    (action >>= next).on b = (.ok y, after) ↔
      ∃ x mid, action.on b = (.ok x, mid) ∧ (next x).on mid = (.ok y, after) := by
  rw [on_bind]
  rcases action.on b with ⟨outcome, mid⟩
  cases outcome with
  | ok x => simp
  | error stop => simp

/-- A sequence stops in its first part or in its second. -/
lemma on_bind_eq_error {action : Action α} {next : α → Action β} {b after : Bench} {stop : Stop} :
    (action >>= next).on b = (.error stop, after) ↔
      action.on b = (.error stop, after) ∨
        ∃ x mid, action.on b = (.ok x, mid) ∧ (next x).on mid = (.error stop, after) := by
  rw [on_bind]
  rcases action.on b with ⟨outcome, mid⟩
  cases outcome with
  | ok x => simp
  | error stop => simp

/-! ## Single actions -/

lemma on_get (b : Bench) : (get : Action Bench).on b = (.ok b, b) := rfl

lemma on_modify (change : Bench → Bench) (b : Bench) :
    (modify change : Action Unit).on b = (.ok (), change b) := rfl

lemma on_note (text : String) (b : Bench) :
    (note text).on b = (.ok (), { b with notes := b.notes.push text }) := rfl

lemma on_noteIf (condition : Bool) (text : String) (b : Bench) :
    (noteIf condition text).on b =
      (.ok (), { b with notes := if condition then b.notes.push text else b.notes }) := by
  cases condition <;> rfl

lemma on_timing (operation : Clock → α × Clock) (b : Bench) :
    (timing operation).on b = (.ok (operation b.clock).1, { b with clock := (operation b.clock).2 }) :=
  rfl

lemma on_resetWatch (b : Bench) :
    resetWatch.on b =
      (.ok (), { b with watch := (Stopwatch.start b.clock).1, clock := (Stopwatch.start b.clock).2 }) :=
  rfl

lemma on_elapsed (b : Bench) :
    elapsed.on b = (.ok (b.watch.elapsed b.clock).1, { b with clock := (b.watch.elapsed b.clock).2 }) :=
  rfl

/-- A body that was called is listed, whether it reports groups or not. -/
lemma on_call (body : Body) (runs : UInt64) (b : Bench) :
    (call body runs).on b =
      ((body.count runs).mapError Stop.fault,
        { b with calls := b.calls.push ⟨body.label, runs⟩, clock := b.clock.advance body.spend }) := by
  simp only [call, on_bind, on_modify]
  cases body.count runs <;> rfl

lemma on_write (chunk : Chunk) (b : Bench) :
    (write chunk).on b = match b.sink.write chunk with
      | .ok sink => (.ok (), { b with sink })
      | .error failure => (.error (.failure failure), b) := by
  simp only [write, on_bind, on_get]
  cases b.sink.write chunk <;> rfl

lemma on_flush (b : Bench) :
    flush.on b = (b.sink.flush.1.mapError Stop.failure, { b with sink := b.sink.flush.2 }) := by
  simp only [flush, on_bind, on_get]
  rcases b.sink.flush with ⟨failure | ⟨⟩, sink⟩ <;> rfl

/-! ## Faults -/

/-- An action ended without a fault: it gave a result, or it failed for a reason that it reports. -/
def FaultFree (outcome : Except Stop α) : Prop := ∀ fault, outcome ≠ .error (.fault fault)

instance : (outcome : Except Stop α) → Decidable (FaultFree outcome)
  | .ok _ => isTrue nofun
  | .error (.failure _) => isTrue nofun
  | .error (.fault fault) => isFalse fun h => h fault rfl

lemma faultFree_ok (x : α) : FaultFree (.ok x) := nofun

lemma faultFree_failure (failure : Failure) : FaultFree (.error (.failure failure) : Except Stop α) := nofun

/-- The first part of a sequence without a fault has none either. -/
lemma FaultFree.of_bind {action : Action α} {next : α → Action β} {b : Bench}
    (h : FaultFree ((action >>= next).on b).1) : FaultFree (action.on b).1 := by
  intro fault hfault
  refine h fault ?_
  rw [on_bind]
  rcases hrun : action.on b with ⟨stop | x, after⟩
  · rw [hrun] at hfault
    cases hfault
    rfl
  · rw [hrun] at hfault
    cases hfault

/-! ## Frames -/

/-- However an action ends, a view of the bench is as it was before. -/
def Keeps {δ : Type} (view : Bench → δ) (action : Action α) : Prop :=
  ∀ b, view (action.on b).2 = view b

namespace Keeps

variable {δ : Type} {view : Bench → δ}

lemma pure (x : α) : Keeps view (Pure.pure x : Action α) := fun _ => rfl

lemma bind {action : Action α} {next : α → Action β} (h : Keeps view action)
    (hnext : ∀ x, Keeps view (next x)) : Keeps view (action >>= next) := by
  intro b
  have hb := h b
  rw [on_bind]
  rcases hrun : action.on b with ⟨outcome, mid⟩
  rw [hrun] at hb
  cases outcome with
  | ok x => exact (hnext x mid).trans hb
  | error stop => exact hb

/-- A write keeps every view that does not look at the sink. -/
lemma write (h : ∀ b sink, view { b with sink } = view b) (chunk : Chunk) :
    Keeps view (Action.write chunk) := by
  intro b
  rw [on_write]
  cases b.sink.write chunk with
  | ok sink => exact h b sink
  | error failure => rfl

end Keeps

end OpTiming.Action
