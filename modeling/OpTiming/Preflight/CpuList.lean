import OpTiming.Text.Blank
import OpTiming.Text.Numeral

/-!
# Processor lists

The system lists logical processors as numbers and inclusive ranges between commas, as in `0-3,8`.

* **`parse?`** — the processors of a list, in written order.  Blanks around the list and empty parts
  do not matter; a range whose ends are the wrong way round contributes nothing.
* **`siblingOf?`** — the first listed processor other than a given one.
-/

namespace OpTiming.Preflight.CpuList

/-- The processors from one to another.  A list has no bound here: a range of more processors than memory can hold
at once is outside of what is modelled. -/
def span (first last : UInt64) : List UInt64 :=
  (List.range' first.toNat (last.toNat + 1 - first.toNat)).map UInt64.ofNat

/-- What stands before and after the first dash, if there is one. -/
def splitDash : List Char → Option (List Char × List Char)
  | [] => none
  | '-' :: after => some ([], after)
  | c :: cs => (splitDash cs).map fun (before, after) => (c :: before, after)

/-- The processors of one part of a list. -/
def parsePart? (part : List Char) : Option (List UInt64) :=
  match splitDash part with
  | some (first, last) => do
    return span (← Text.Numeral.readUInt64? first) (← Text.Numeral.readUInt64? last)
  | none => (Text.Numeral.readUInt64? part).map ([·])

/-- The parts of a list. -/
def parts (cs : List Char) : List (List Char) :=
  (Text.split (· == ',') (Text.trim cs)).filter fun part => !part.isEmpty

/-- The processors of a list. -/
def parse? (text : String) : Option (List UInt64) :=
  ((parts text.toList).mapM parsePart?).map List.flatten

/-- The first listed processor other than a given one. -/
def siblingOf? (core : UInt64) (cpus : List UInt64) : Option UInt64 := cpus.find? (· != core)

end OpTiming.Preflight.CpuList
