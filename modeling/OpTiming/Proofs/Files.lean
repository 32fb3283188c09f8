import Mathlib.Tactic.Common
import OpTiming.Files

/-!
# Reading one file after another

A reading uses up attempts on its own path only.  So what a sequence of readings finds on a path depends
only on how often that path was read before, whatever was read in between.

* **`reading`** — the reading that comes next on a path.
* **`attempts_read_of_ne`**, **`attempts_read_self`** — the attempts on each path after a reading.
-/

namespace OpTiming.Files

/-- The reading that comes next on a path. -/
def reading (f : Files) (path : String) : Reading := next (f.attempts path)

/-- The reading that comes after the next one on a path. -/
def secondReading (f : Files) (path : String) : Reading := next (rest (f.attempts path))

/-- The attempts on a path are all that its readings depend on. -/
lemma reading_congr {f g : Files} {path : String} (h : g.attempts path = f.attempts path) :
    g.reading path = f.reading path := by
  rw [reading, h, reading]

lemma secondReading_congr {f g : Files} {path : String} (h : g.attempts path = f.attempts path) :
    g.secondReading path = f.secondReading path := by
  rw [secondReading, h, secondReading]

lemma lookup_afterRead (path other : String) (contents : List (String × List Attempt)) :
    (contents.map fun (p, attempts) => if p = path then (p, rest attempts) else (p, attempts)).lookup other =
      (contents.lookup other).map fun attempts => if other = path then rest attempts else attempts := by
  induction contents with
  | nil => rfl
  | cons entry contents ih =>
    obtain ⟨p, attempts⟩ := entry
    by_cases hother : other = p
    · subst hother
      by_cases hpath : other = path
      · simp [hpath]
      · simp [hpath]
    · have hne : (other == p) = false := beq_eq_false_iff_ne.mpr hother
      rw [List.map_cons, List.lookup_cons, List.lookup_cons]
      by_cases hpath : p = path
      · rw [if_pos hpath, hne]
        exact ih
      · rw [if_neg hpath, hne]
        exact ih

lemma attempts_read_of_ne {path other : String} (h : other ≠ path) (f : Files) :
    (f.read path).2.attempts other = f.attempts other := by
  simp only [read, attempts, lookup_afterRead, if_neg h, Option.map_id']

lemma attempts_read_self (f : Files) (path : String) :
    (f.read path).2.attempts path = rest (f.attempts path) := by
  simp only [read, attempts, lookup_afterRead, if_true]
  cases f.contents.lookup path with
  | none => rfl
  | some attempts => rfl

lemma reading_read_self (f : Files) (path : String) : (f.read path).2.reading path = f.secondReading path := by
  rw [reading, attempts_read_self, secondReading]

end OpTiming.Files
