import Mathlib.Data.Nat.Find
import OpTiming.Proofs.Clock

/-!
# The resolution of a clock

The resolution is found in rounds.  A round reads the clock, and then reads it again until it shows something else;
the difference is the step of the round, and the smallest step of all rounds is the resolution.  A round on a clock
that has stopped would never end, so the number of its readings is bounded by a patience.  As long as each round
sees its change, patience plays no part: any patience that is large enough gives the same steps, the same
resolution and the same clock behind it.

* **`Changes`** — the first change behind a reading.  **`step_of_changes`** — a round goes as far as that.
* **`Rounds`** — rounds one after the other, each up to its change, with their steps.
* **`EverySpinEnds`** — a clock on which so many rounds come to an end; **`exists_rounds`**.
* **`smallestStep_of_rounds`** — the best step after some rounds is their minimum.
* **`resolution_is_smallest_step`** — the resolution.
-/

namespace OpTiming.Clock

variable {c last : Clock} {n rounds : Nat} {steps : List Nat}

/-! ## One round -/

/-- The first reading that differs from the next one comes `n` readings behind it. -/
structure Changes (c : Clock) (n : Nat) : Prop where
  ne : c.reading n ≠ c.reading 0
  still : ∀ m < n, c.reading m = c.reading 0

lemma exists_changes (h : ∃ n, c.reading n ≠ c.reading 0) : ∃ n, c.Changes n := by
  classical
  refine ⟨Nat.find h, Nat.find_spec h, fun m hm => ?_⟩
  exact not_not.mp (Nat.find_min h hm)

lemma Changes.pos (h : c.Changes n) : 0 < n := by
  refine Nat.pos_of_ne_zero ?_
  rintro rfl
  exact h.ne rfl

/-- A step is never zero. -/
lemma Changes.step_pos (h : c.Changes n) : 0 < c.reading n - c.reading 0 :=
  Nat.sub_pos_of_lt (Nat.lt_of_le_of_ne (c.monotone_reading (Nat.zero_le n)) h.ne.symm)

/-- **A spin stops at the first reading that differs**, and takes no other one. -/
lemma spin_of_still {start patience : Nat} (hstill : ∀ m < n, c.reading m = start) (hne : c.reading n ≠ start)
    (hn : n ≤ patience) : spin start patience c = (c.reading n, c.after (n + 1)) := by
  induction n generalizing c patience with
  | zero =>
    cases patience with
    | zero => rfl
    | succ patience =>
      rw [spin, read_eq]
      exact if_neg hne
  | succ n ih =>
    obtain ⟨patience, rfl⟩ := Nat.exists_eq_add_of_le' (Nat.le_of_add_left_le hn : 1 ≤ patience)
    have hrest := @ih (c.after 1) patience
    simp only [reading_after_one, after_one_after] at hrest
    rw [spin, read_eq]
    refine (if_pos (hstill 0 (Nat.succ_pos n))).trans (hrest (fun m hm => ?_) hne (Nat.le_of_succ_le_succ hn))
    exact hstill (m + 1) (Nat.succ_lt_succ hm)

/-- A spin that sees nothing new goes on as long as patience lasts. -/
lemma spin_of_stopped {start patience : Nat} (h : ∀ m ≤ patience, c.reading m = start) :
    spin start patience c = (start, c.after (patience + 1)) := by
  induction patience generalizing c with
  | zero => rw [spin, read_eq, h 0 (Nat.le_refl 0)]
  | succ patience ih =>
    have hrest := ih (c := c.after 1)
    simp only [reading_after_one, after_one_after] at hrest
    rw [spin, read_eq]
    refine (if_pos (h 0 (Nat.zero_le _))).trans (hrest fun m hm => ?_)
    exact h (m + 1) (Nat.succ_le_succ hm)

/-- **A round goes as far as the first change**, if patience lasts so long. -/
lemma step_of_changes {patience : Nat} (h : c.Changes n) (hn : n ≤ patience + 1) :
    c.step patience = (c.reading n - c.reading 0, c.after (n + 1)) := by
  obtain ⟨k, rfl⟩ := Nat.exists_eq_add_of_le' h.pos
  have hspin : spin (c.reading 0) patience (c.after 1) = (c.reading (k + 1), c.after (k + 2)) := by
    rw [← reading_after_one, ← after_one_after c (k + 1)]
    refine spin_of_still (fun m hm => ?_) ?_ (Nat.le_of_succ_le_succ hn)
    · rw [reading_after_one]
      exact h.still (m + 1) (Nat.succ_lt_succ hm)
    · rw [reading_after_one]
      exact h.ne
  rw [step, read_eq]
  simp only [hspin]

lemma step_of_stopped (h : ∀ m, c.reading m = c.reading 0) (patience : Nat) :
    c.step patience = (0, c.after (patience + 2)) := by
  have hspin : spin (c.reading 0) patience (c.after 1) = (c.reading 0, c.after (patience + 2)) := by
    rw [← after_one_after c (patience + 1)]
    refine spin_of_stopped fun m _ => ?_
    rw [reading_after_one]
    exact h (m + 1)
  rw [step, read_eq]
  simp only [hspin, Nat.sub_self]

/-! ## Many rounds -/

/-- Rounds one after the other: the clock before them, their steps, and the clock behind them.  Each round takes
the readings up to its first change, and the next one goes on from there. -/
inductive Rounds : Clock → List Nat → Clock → Prop
  | nil (c : Clock) : Rounds c [] c
  | cons {c last : Clock} {n : Nat} {steps : List Nat} (change : c.Changes n)
      (rest : Rounds (c.after (n + 1)) steps last) : Rounds c ((c.reading n - c.reading 0) :: steps) last

/-- So many rounds come to an end: the spin of each of them sees a new reading in the end, wherever the rounds
before it have left the clock. -/
def EverySpinEnds : Nat → Clock → Prop
  | 0, _ => True
  | rounds + 1, c => (∃ n, c.reading n ≠ c.reading 0) ∧ ∀ n, c.Changes n → EverySpinEnds rounds (c.after (n + 1))

lemma exists_rounds (h : EverySpinEnds rounds c) :
    ∃ steps last, Rounds c steps last ∧ steps.length = rounds := by
  induction rounds generalizing c with
  | zero => exact ⟨[], c, .nil c, rfl⟩
  | succ rounds ih =>
    obtain ⟨hchange, hrest⟩ := h
    obtain ⟨n, hn⟩ := exists_changes hchange
    obtain ⟨steps, last, hsteps, hlength⟩ := ih (hrest n hn)
    exact ⟨_, last, .cons hn hsteps, by rw [List.length_cons, hlength]⟩

lemma Rounds.pos (h : Rounds c steps last) : ∀ s ∈ steps, 0 < s := by
  induction h with
  | nil c => simp
  | cons change rest ih => exact List.forall_mem_cons.mpr ⟨change.step_pos, ih⟩

/-- A clock that moves on behind every reading lets any number of rounds come to an end. -/
lemma everySpinEnds_of_moves (h : ∀ n, ∃ m, c.reading n < c.reading m) : EverySpinEnds rounds c := by
  induction rounds generalizing c with
  | zero => exact trivial
  | succ rounds ih =>
    refine ⟨(h 0).imp fun m hm => hm.ne', fun n _ => ih fun k => ?_⟩
    obtain ⟨m, hm⟩ := h (n + 1 + k)
    refine ⟨m, ?_⟩
    rw [reading_after, reading_after]
    exact hm.trans_le (c.monotone_reading (Nat.le_add_left m (n + 1)))

/-! ## The best step -/

/-- The best step so far becomes the smaller one of itself and a new step. -/
lemma foldl_better (best : Nat) (steps : List Nat) :
    steps.foldl (fun best s => some (better best s)) (some best) = some (steps.foldl min best) := by
  induction steps generalizing best with
  | nil => rfl
  | cons s steps ih =>
    have hbetter : better (some best) s = min best s := by
      simp only [better]
      split <;> omega
    rw [List.foldl_cons, List.foldl_cons, hbetter, ih]

/-- **From no step so far, the best one is the smallest of all.** -/
lemma foldl_better_none (steps : List Nat) :
    steps.foldl (fun best s => some (better best s)) none = steps.min? := by
  cases steps with
  | nil => rfl
  | cons s steps => rw [List.foldl_cons, List.min?_cons', ← foldl_better]; rfl

/-- **Rounds are what is run**, with any patience that is large enough. -/
lemma smallestStep_of_rounds (h : Rounds c steps last) :
    ∃ enough, ∀ patience, enough ≤ patience → ∀ best, c.smallestStep patience steps.length best =
      (steps.foldl (fun best s => some (better best s)) best, last) := by
  induction h with
  | nil c => exact ⟨0, fun patience _ best => rfl⟩
  | @cons c last n steps change rest ih =>
    obtain ⟨enough, henough⟩ := ih
    refine ⟨max n enough, fun patience hpatience best => ?_⟩
    obtain ⟨hn, hrest⟩ := Nat.max_le.mp hpatience
    rw [List.length_cons, smallestStep, step_of_changes change (Nat.le_succ_of_le hn)]
    exact henough patience hrest _

/-! ## The resolution -/

/-- **The resolution is the smallest step** of sixty-four rounds, on every clock on which each of their spins sees
a new reading in the end.  The rounds then come to an end by themselves: with any patience that is large enough,
the clock is left where the last of them saw its change.  The best step is no longer missing there; it is the step
of one of the rounds, none of them has a smaller one, and it is not zero.  A round takes one reading for its start
and those up to its first change, and no further one; only where nothing changes it goes on as long as patience
lasts. -/
theorem resolution_is_smallest_step (c : Clock) (h : EverySpinEnds 64 c) :
    (∃ steps last, Rounds c steps last ∧ steps.length = 64 ∧
      ∃ least ∈ steps, (∀ s ∈ steps, least ≤ s) ∧ 0 < least ∧
        ∃ enough, ∀ patience, enough ≤ patience →
          c.smallestStep patience resolutionRounds none = (some least, last) ∧
            c.resolution patience = (least, last)) ∧
      (∀ (d : Clock) (n patience : Nat), d.Changes n → n ≤ patience + 1 →
        d.step patience = (d.reading n - d.reading 0, d.after (n + 1)) ∧
          (d.step patience).2.readings = d.readings + (n + 1)) ∧
      ∀ (d : Clock) (patience : Nat), (∀ m, d.reading m = d.reading 0) →
        (d.step patience).2.readings = d.readings + (patience + 2) := by
  refine ⟨?_, fun d n patience hchange hn => ?_, fun d patience hstopped => ?_⟩
  · obtain ⟨steps, last, hrounds, hlength⟩ := exists_rounds h
    obtain ⟨enough, henough⟩ := smallestStep_of_rounds hrounds
    have hne : steps ≠ [] := List.ne_nil_of_length_pos (hlength ▸ Nat.succ_pos 63)
    obtain ⟨least, hleast⟩ := Option.ne_none_iff_exists'.mp (mt List.min?_eq_none_iff.mp hne)
    obtain ⟨hmem, hle⟩ := List.min?_eq_some_iff.mp hleast
    refine ⟨steps, last, hrounds, hlength, least, hmem, hle, hrounds.pos least hmem, enough,
      fun patience hpatience => ?_⟩
    have hrun : c.smallestStep patience resolutionRounds none = (some least, last) := by
      rw [resolutionRounds, ← hlength, henough patience hpatience, foldl_better_none, hleast]
    refine ⟨hrun, ?_⟩
    rw [resolution, hrun]
    rfl
  · have hstep := step_of_changes hchange hn
    refine ⟨hstep, ?_⟩
    rw [hstep, readings_after]
  · rw [step_of_stopped hstopped, readings_after]

/-- A clock that ticks shows something new again and again. -/
lemma ticking_moves {start step every : Nat} (hstep : 0 < step) (hevery : 0 < every) (n : Nat) :
    ∃ m, (ticking start step every).reading n < (ticking start step every).reading m := by
  have hlater : n + 2 ≤ every * (n + 2) := Nat.le_mul_of_pos_left (n + 2) hevery
  obtain ⟨k, hk⟩ := Nat.exists_eq_add_of_le' (Nat.le_of_add_left_le hlater : 2 ≤ every * (n + 2))
  have hpace : (ticking start step every).pace ((ticking start step every).readings + (k + 1)) = step := by
    show (if (0 + (k + 1) + 1) % every = 0 then step else 0) = step
    rw [Nat.zero_add, if_pos]
    exact Nat.mod_eq_zero_of_dvd (hk ▸ Nat.dvd_mul_right every (n + 2))
  refine ⟨k + 1, ?_⟩
  rw [reading_succ, hpace]
  have hle := (ticking start step every).monotone_reading (show n ≤ k by omega)
  omega

/-- A clock that moves before every fourth reading, from its fourth one on. -/
theorem resolution_of_ticking_clock :
    EverySpinEnds 64 (ticking 1000 30 4) ∧
      (∃ least > 0, ∃ enough, ∀ patience, enough ≤ patience →
        ((ticking 1000 30 4).resolution patience).1 = least) ∧
      (ticking 1000 30 4).Changes 3 ∧ ((ticking 1000 30 4).step 2).1 = 30 := by
  have hends : EverySpinEnds 64 (ticking 1000 30 4) :=
    everySpinEnds_of_moves (ticking_moves (by decide) (by decide))
  have hchange : (ticking 1000 30 4).Changes 3 := ⟨by decide, by decide⟩
  obtain ⟨⟨_, _, -, -, least, -, -, hpos, enough, henough⟩, hround, -⟩ :=
    resolution_is_smallest_step (ticking 1000 30 4) hends
  refine ⟨hends, ⟨least, hpos, enough, fun patience hpatience => ?_⟩, hchange, ?_⟩
  · rw [(henough patience hpatience).2]
  · rw [(hround _ 3 2 hchange (by decide)).1]
    decide

end OpTiming.Clock
