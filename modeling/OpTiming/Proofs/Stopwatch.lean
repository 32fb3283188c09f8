import Mathlib.Algebra.BigOperators.Group.List.Basic
import Mathlib.Algebra.Ring.Nat
import OpTiming.Proofs.Action
import OpTiming.Proofs.Clock

/-!
# Laps of a stopwatch

A running stopwatch is looked at or takes a lap, again and again, and each of these uses reads the clock once.  A
lap shows the time since the last one and starts the next one at the very reading that it shows, so no time falls
between two laps, however many looks there are between them.

* **`Use`**, **`uses`** — one use, and many of them one after the other.
* **`RunsOn`** — a stopwatch that was started on its clock.  A use keeps it so (`RunsOn.use`), and what is shown by
  a lap is what the stopwatch moves on by (`lapTime_add_epoch`); a run adds this up (`sum_lapTimes`).
* **`shown_of_lacks`** — a look may be left out, together with its reading.
* **`session`**, **`lastLook`** — a stopwatch that is started and then used, and what a look at its end shows.
* **`laps_lose_no_time`** — what laps and a last look show, taken together.
-/

namespace OpTiming.Stopwatch

open OpTiming.Action

/-- What is done with a running stopwatch. -/
inductive Use
  /-- Look at it. -/
  | elapsed
  /-- Take a lap. -/
  | lap
  deriving DecidableEq, Repr

variable {w : Stopwatch} {c d : Clock}

/-! ## One use -/

/-- Use a stopwatch once: what it shows, and the stopwatch and the clock behind it. -/
def use (w : Stopwatch) (c : Clock) : Use → Nat × Stopwatch × Clock
  | .elapsed =>
    let (shown, c) := w.elapsed c
    (shown, w, c)
  | .lap => w.lap c

/-- The stopwatch behind a use at a reading. -/
def behind (w : Stopwatch) (now : Nat) : Use → Stopwatch
  | .elapsed => w
  | .lap => ⟨now⟩

/-- What a use adds to the laps. -/
def lapTime (shown : Nat) : Use → Nat
  | .elapsed => 0
  | .lap => shown

/-- **A use takes one reading** and shows how far it is from the start. -/
lemma use_eq (w : Stopwatch) (c : Clock) (u : Use) :
    w.use c u = (c.reading 0 - w.epoch, w.behind (c.reading 0) u, c.after 1) := by
  cases u <;> rfl

/-- A stopwatch was started on a clock, at a reading before where the clock stands. -/
def RunsOn (w : Stopwatch) (c : Clock) : Prop := w.epoch ≤ c.now

lemma RunsOn.epoch_le (h : w.RunsOn c) (n : Nat) : w.epoch ≤ c.reading n := h.trans (c.now_le_reading n)

lemma runsOn_start (c : Clock) : (start c).1.RunsOn (start c).2 := Nat.le_refl _

/-- A use keeps a stopwatch running on its clock. -/
lemma RunsOn.use (h : w.RunsOn c) (u : Use) : (w.behind (c.reading 0) u).RunsOn (c.after 1) := by
  cases u with
  | elapsed => exact h.epoch_le 0
  | lap => exact Nat.le_refl (c.reading 0)

/-- **A stopwatch moves on by its laps**, and by nothing else. -/
lemma lapTime_add_epoch (h : w.RunsOn c) (u : Use) :
    w.epoch + lapTime (c.reading 0 - w.epoch) u = (w.behind (c.reading 0) u).epoch := by
  cases u with
  | elapsed => rfl
  | lap => exact Nat.add_sub_of_le (h.epoch_le 0)

/-! ## Many uses -/

/-- What uses show, in order, and what they leave behind. -/
structure Used where
  shown : List Nat
  watch : Stopwatch
  clock : Clock

/-- Use a stopwatch again and again. -/
def uses : List Use → Stopwatch → Clock → Used
  | [], w, c => { shown := [], watch := w, clock := c }
  | u :: us, w, c =>
    let (shown, w, c) := w.use c u
    let rest := uses us w c
    { rest with shown := shown :: rest.shown }

/-- The times that were shown by laps. -/
def lapTimes (us : List Use) (shown : List Nat) : List Nat :=
  (us.zip shown).filterMap fun (u, time) => if u = .lap then some time else none

variable {us vs : List Use}

lemma uses_cons (u : Use) (us : List Use) (w : Stopwatch) (c : Clock) :
    uses (u :: us) w c =
      { uses us (w.behind (c.reading 0) u) (c.after 1) with
        shown := (c.reading 0 - w.epoch) :: (uses us (w.behind (c.reading 0) u) (c.after 1)).shown } := by
  rw [uses, use_eq]

lemma uses_append (us vs : List Use) (w : Stopwatch) (c : Clock) :
    uses (us ++ vs) w c =
      { uses vs (uses us w c).watch (uses us w c).clock with
        shown := (uses us w c).shown ++ (uses vs (uses us w c).watch (uses us w c).clock).shown } := by
  induction us generalizing w c with
  | nil => rfl
  | cons u us ih => simp only [List.cons_append, uses_cons, ih]

lemma length_shown (us : List Use) (w : Stopwatch) (c : Clock) : (uses us w c).shown.length = us.length := by
  induction us generalizing w c with
  | nil => rfl
  | cons u us ih => simp only [uses_cons, List.length_cons, ih]

/-- **Each use takes one reading.** -/
lemma clock_uses (us : List Use) (w : Stopwatch) (c : Clock) : (uses us w c).clock = c.after us.length := by
  induction us generalizing w c with
  | nil => rfl
  | cons u us ih => rw [uses_cons, ih, Clock.after_one_after, List.length_cons]

lemma sum_lapTimes_cons (u : Use) (us : List Use) (time : Nat) (times : List Nat) :
    (lapTimes (u :: us) (time :: times)).sum = lapTime time u + (lapTimes us times).sum := by
  cases u <;> simp [lapTimes, lapTime]

/-- **A stopwatch has moved on by the sum of its laps.** -/
lemma sum_lapTimes (h : w.RunsOn c) (us : List Use) :
    (uses us w c).watch.RunsOn (uses us w c).clock ∧
      w.epoch + (lapTimes us (uses us w c).shown).sum = (uses us w c).watch.epoch := by
  induction us generalizing w c with
  | nil => exact ⟨h, rfl⟩
  | cons u us ih =>
    obtain ⟨hruns, hsum⟩ := ih (h.use u)
    rw [uses_cons]
    refine ⟨hruns, ?_⟩
    rw [sum_lapTimes_cons, ← Nat.add_assoc, lapTime_add_epoch h u, hsum]

/-! ## Looks that are left out -/

/-- What uses show depends on the readings that they take, and on nothing else of the clock. -/
lemma uses_congr (h : ∀ n < us.length, d.reading n = c.reading n) (w : Stopwatch) :
    (uses us w d).shown = (uses us w c).shown ∧ (uses us w d).watch = (uses us w c).watch := by
  induction us generalizing w c d with
  | nil => exact ⟨rfl, rfl⟩
  | cons u us ih =>
    have hfirst : d.reading 0 = c.reading 0 := h 0 (Nat.succ_pos _)
    have hrest : ∀ n < us.length, (d.after 1).reading n = (c.after 1).reading n := by
      intro n hn
      rw [Clock.reading_after_one, Clock.reading_after_one]
      exact h (n + 1) (Nat.succ_lt_succ hn)
    obtain ⟨hshown, hwatch⟩ := ih hrest (w.behind (c.reading 0) u)
    rw [uses_cons, uses_cons, hfirst]
    exact ⟨by rw [hshown], hwatch⟩

/-- **A look changes nothing that is shown later.**  Without the look, and on a clock without the reading that it
took, everything else is shown as before. -/
lemma shown_of_lacks (h : d.Lacks c us.length) (w : Stopwatch) (vs : List Use) :
    (uses (us ++ vs) w d).shown = (uses (us ++ .elapsed :: vs) w c).shown.eraseIdx us.length ∧
      (uses (us ++ vs) w d).watch = (uses (us ++ .elapsed :: vs) w c).watch := by
  obtain ⟨hbefore, hbehind⟩ := h
  obtain ⟨hshown, hwatch⟩ := uses_congr hbefore w
  have hlater : ∀ n < vs.length, (d.after us.length).reading n = (c.after (us.length + 1)).reading n := by
    intro n hn
    rw [Clock.reading_after, Clock.reading_after, hbehind _ (Nat.le_add_right _ n), Nat.add_right_comm]
  obtain ⟨hshown', hwatch'⟩ := uses_congr hlater (uses us w c).watch
  have hlook : ∀ now, (uses us w c).watch.behind now .elapsed = (uses us w c).watch := fun now => rfl
  rw [uses_append, uses_append, uses_cons, clock_uses, clock_uses, hlook, hwatch, ← Clock.after_add]
  refine ⟨?_, hwatch'⟩
  rw [hshown, hshown', List.eraseIdx_append_of_length_le (Nat.le_of_eq (length_shown us w c)), length_shown,
    Nat.sub_self, List.eraseIdx_cons_zero]

/-! ## From the start to the last look -/

/-- Start a stopwatch and use it. -/
def session (c : Clock) (us : List Use) : Used := uses us (start c).1 (start c).2

/-- What a last look shows behind a session. -/
def lastLook (c : Clock) (us : List Use) : Nat := ((session c us).watch.elapsed (session c us).clock).1

lemma session_eq (c : Clock) (us : List Use) : session c us = uses us ⟨c.reading 0⟩ (c.after 1) := rfl

/-- The start takes one reading, and each use takes another one. -/
lemma clock_session (c : Clock) (us : List Use) : (session c us).clock = c.after (us.length + 1) := by
  rw [session_eq, clock_uses, Clock.after_one_after]

lemma lastLook_eq (c : Clock) (us : List Use) :
    lastLook c us = c.reading (us.length + 1) - (session c us).watch.epoch := by
  rw [lastLook, clock_session]
  rfl

/-- **The laps and the last look** fill the time between the first reading and the last one. -/
lemma sum_lapTimes_add_lastLook (c : Clock) (us : List Use) :
    (lapTimes us (session c us).shown).sum + lastLook c us = c.reading (us.length + 1) - c.reading 0 := by
  obtain ⟨hruns, hsum⟩ : (session c us).watch.RunsOn (session c us).clock ∧
      c.reading 0 + (lapTimes us (session c us).shown).sum = (session c us).watch.epoch :=
    sum_lapTimes (runsOn_start c) us
  have hepoch : (session c us).watch.epoch ≤ c.reading (us.length + 1) := by
    have hnow := hruns.epoch_le 0
    rwa [clock_session, Clock.reading_after] at hnow
  rw [lastLook_eq]
  omega

/-- A look in a session may be left out, together with its reading. -/
lemma session_of_lacks (before after : List Use) (h : d.Lacks c (before.length + 1)) :
    (session d (before ++ after)).shown =
        (session c (before ++ .elapsed :: after)).shown.eraseIdx before.length ∧
      lastLook d (before ++ after) = lastLook c (before ++ .elapsed :: after) := by
  have hstart : d.reading 0 = c.reading 0 := h.1 0 (Nat.succ_pos _)
  have hend : d.reading ((before ++ after).length + 1) =
      c.reading ((before ++ .elapsed :: after).length + 1) := by
    rw [h.2 _ (by rw [List.length_append]; omega)]
    simp [Nat.add_assoc]
  obtain ⟨hshown, hwatch⟩ := shown_of_lacks h.after_one ⟨c.reading 0⟩ after
  rw [lastLook_eq, lastLook_eq, session_eq, session_eq, hstart, hend, hwatch]
  exact ⟨hshown, rfl⟩

/-- **Laps lose no time.**  A stopwatch is started, which is also how one is reset, and then used.  Starting it
takes one reading, and so does each use and a last look.  What the laps show and what the last look shows add up to
the time from the first of these readings to the last one.  A look may be left out together with the reading that
it takes: all other uses then show what they showed before, and so does the last look. -/
theorem laps_lose_no_time (c : Clock) (us : List Use) :
    (∀ b : Bench, b.clock = c →
      resetWatch.on b = (.ok (), { b with watch := (start c).1, clock := (start c).2 })) ∧
      ((start c).1.epoch = c.reading 0 ∧ (start c).2.readings = c.readings + 1 ∧
        (session c us).clock.readings = (start c).2.readings + us.length ∧
        ((session c us).watch.elapsed (session c us).clock).2.readings = (session c us).clock.readings + 1) ∧
      c.reading 0 ≤ c.reading (us.length + 1) ∧
      (lapTimes us (session c us).shown).sum + lastLook c us = c.reading (us.length + 1) - c.reading 0 ∧
      ∀ before after d, us = before ++ .elapsed :: after → d.Lacks c (before.length + 1) →
        (session d (before ++ after)).shown = (session c us).shown.eraseIdx before.length ∧
          lastLook d (before ++ after) = lastLook c us := by
  refine ⟨fun b hb => ?_, ⟨rfl, rfl, ?_, rfl⟩, c.monotone_reading (Nat.zero_le _), sum_lapTimes_add_lastLook c us,
    fun before after d hus hd => ?_⟩
  · subst hb
    exact on_resetWatch b
  · rw [session, clock_uses, Clock.readings_after]
  · subst hus
    exact session_of_lacks before after hd

/-- Two laps with a look between them, on a clock that stands still before every other reading; and the same laps
without the look. -/
theorem laps_lose_no_time_of_sample :
    let c := Clock.ticking 1000 30 2
    let us : List Use := [.lap, .elapsed, .lap]
    (session c us).shown = [30, 0, 30] ∧
      (lapTimes us (session c us).shown).sum + lastLook c us = c.reading 4 - c.reading 0 ∧
      ∃ d : Clock, d.Lacks c 2 ∧ (session d [.lap, .lap]).shown = [30, 30] := by
  intro c us
  have hshown : (session c us).shown = [30, 0, 30] := by decide
  obtain ⟨-, -, -, hsum, hlacks⟩ := laps_lose_no_time c us
  obtain ⟨d, hd⟩ := c.exists_lacks 2
  obtain ⟨hshown', -⟩ := hlacks [.lap] [.lap] d rfl hd
  refine ⟨hshown, hsum, d, hd, ?_⟩
  rw [hshown] at hshown'
  exact hshown'

end OpTiming.Stopwatch
