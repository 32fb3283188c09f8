import Mathlib.Order.Monotone.Basic
import Mathlib.Tactic.Common
import OpTiming.Clock

/-!
# The readings of a clock

A clock is read again and again, and nothing else happens to it here, so it is a sequence of readings.  The
sequence never goes back, and every sequence that never goes back is the one of some clock.

* **`after`** — the clock behind some readings.  **`reading`** — what a later reading shows.
* **`exists_reading_eq`** — clocks are the non-decreasing sequences.
* **`Lacks`** — a clock that leaves out one reading of another one.
-/

namespace OpTiming.Clock

variable (c : Clock)

/-- The clock after so many readings. -/
def after (c : Clock) : Nat → Clock
  | 0 => c
  | n + 1 => (c.after n).read.2

/-- What the `n`-th reading from here shows, counted from zero. -/
def reading (c : Clock) (n : Nat) : Nat := (c.after n).read.1

lemma read_eq : c.read = (c.reading 0, c.after 1) := rfl

lemma after_add (m n : Nat) : c.after (m + n) = (c.after m).after n := by
  induction n with
  | zero => rfl
  | succ n ih => rw [← Nat.add_assoc, after, after, ih]

lemma reading_after (m n : Nat) : (c.after m).reading n = c.reading (m + n) := by
  rw [reading, reading, after_add]

@[simp] lemma after_one_after (n : Nat) : (c.after 1).after n = c.after (n + 1) := by
  rw [← after_add, Nat.add_comm]

@[simp] lemma reading_after_one (n : Nat) : (c.after 1).reading n = c.reading (n + 1) := by
  rw [reading_after, Nat.add_comm]

/-- **Every reading is counted.** -/
lemma readings_after (n : Nat) : (c.after n).readings = c.readings + n := by
  induction n with
  | zero => rfl
  | succ n ih => rw [after, read, ih, Nat.add_assoc]

lemma pace_after (n : Nat) : (c.after n).pace = c.pace := by
  induction n with
  | zero => rfl
  | succ n ih => rw [after, read, ih]

lemma now_after_succ (n : Nat) : (c.after (n + 1)).now = c.reading n := rfl

lemma reading_zero : c.reading 0 = c.now + c.pace c.readings := rfl

/-- A clock moves by its pace before a reading. -/
lemma reading_succ (n : Nat) : c.reading (n + 1) = c.reading n + c.pace (c.readings + (n + 1)) := by
  show (c.after (n + 1)).now + (c.after (n + 1)).pace (c.after (n + 1)).readings = _
  rw [now_after_succ, pace_after, readings_after]

/-- **A clock never goes back.** -/
lemma monotone_reading : Monotone c.reading := by
  refine monotone_nat_of_le_succ fun n => ?_
  rw [reading_succ]
  exact Nat.le_add_right _ _

lemma now_le_reading (n : Nat) : c.now ≤ c.reading n := by
  have hfirst : c.now ≤ c.reading 0 := by
    rw [reading_zero]
    exact Nat.le_add_right _ _
  exact hfirst.trans (c.monotone_reading (Nat.zero_le n))

/-- The pace of a clock that shows a sequence. -/
def paceOf (shown : Nat → Nat) : Nat → Nat
  | 0 => shown 0
  | n + 1 => shown (n + 1) - shown n

/-- **Every non-decreasing sequence is shown by a clock**, as it moves by the differences. -/
theorem exists_reading_eq {shown : Nat → Nat} (h : Monotone shown) : ∃ c : Clock, c.reading = shown := by
  refine ⟨⟨0, paceOf shown, 0⟩, ?_⟩
  funext n
  induction n with
  | zero => simp [reading_zero, paceOf]
  | succ n ih =>
    rw [reading_succ, ih]
    show shown n + paceOf shown (0 + (n + 1)) = shown (n + 1)
    rw [Nat.zero_add, paceOf]
    exact Nat.add_sub_of_le (h (Nat.le_succ n))

/-! ## One reading less -/

/-- A clock shows what another one shows, but for one of its readings. -/
def Lacks (d c : Clock) (missing : Nat) : Prop :=
  (∀ n < missing, d.reading n = c.reading n) ∧ ∀ n, missing ≤ n → d.reading n = c.reading (n + 1)

lemma Lacks.after_one {d c : Clock} {missing : Nat} (h : d.Lacks c (missing + 1)) :
    (d.after 1).Lacks (c.after 1) missing := by
  obtain ⟨hbefore, hbehind⟩ := h
  refine ⟨fun n hn => ?_, fun n hn => ?_⟩
  · rw [reading_after_one, reading_after_one]
    exact hbefore (n + 1) (Nat.succ_lt_succ hn)
  · rw [reading_after_one, reading_after_one]
    exact hbehind (n + 1) (Nat.succ_le_succ hn)

/-- Any reading may be left out. -/
lemma exists_lacks (missing : Nat) : ∃ d : Clock, d.Lacks c missing := by
  have hmonotone : Monotone fun n => c.reading (if n < missing then n else n + 1) := by
    intro m n hle
    refine c.monotone_reading ?_
    split_ifs <;> omega
  obtain ⟨d, hd⟩ := exists_reading_eq hmonotone
  refine ⟨d, fun n hn => ?_, fun n hn => ?_⟩
  · rw [hd]
    simp only [if_pos hn]
  · rw [hd]
    simp only [if_neg (Nat.not_lt.mpr hn)]

end OpTiming.Clock
