import OpTiming.Fault
import OpTiming.Text.Blank
import OpTiming.Text.Numeral

/-!
# Processor times

The system counts, for every logical processor, how long it spent on what since it was started: a
line with the processor's label and then, among others, user, nice, system, idle and input-output
waiting time, eight of which add up to the total.

* **`parse?`** — the busy and the total time of one processor.  There is none if no line has its
  label, or if the line has fewer than four numbers or anything that is no number.
* **`busyFraction`** — the share of the time between two readings for which it was busy.
-/

namespace OpTiming.Preflight

/-- How long a processor was busy, and how long it was counted. -/
structure CpuTimes where
  busy : UInt64
  total : UInt64
  deriving DecidableEq, Repr

namespace CpuTimes

/-- The label of a processor's line. -/
def label (cpu : UInt64) : List Char := 'c' :: 'p' :: 'u' :: (toString cpu).toList

/-- The words of the first line that starts with a label, without the label. -/
def wordsAfter? (label : List Char) (text : List Char) : Option (List (List Char)) :=
  ((Text.lines text).map Text.words).findSome? fun words =>
    match words with
    | first :: rest => if first = label then some rest else none
    | [] => none

/-- The times of a line of numbers: idle and waiting time are not busy. -/
def ofCounts? : List UInt64 → Except Fault (Option CpuTimes)
  | user :: nice :: system :: idle :: rest => do
    let idleTotal ← checkedAdd idle (rest.headD 0)
    let total ← checkedSum (user :: nice :: system :: idle :: rest.take 4)
    return some ⟨saturatingSub total idleTotal, total⟩
  | _ => .ok none

/-- The times of a processor. -/
def parse? (text : String) (cpu : UInt64) : Except Fault (Option CpuTimes) :=
  match (wordsAfter? (label cpu) text.toList).bind fun words =>
      words.mapM Text.Numeral.readUInt64? with
  | some counts => ofCounts? counts
  | none => .ok none

/-- The share of the time between two readings for which a processor was busy; zero if no time was
counted. -/
def busyFraction (before after : CpuTimes) : Float :=
  let total := saturatingSub after.total before.total
  if total = 0 then 0.0 else (saturatingSub after.busy before.busy).toFloat / total.toFloat

end CpuTimes

end OpTiming.Preflight
