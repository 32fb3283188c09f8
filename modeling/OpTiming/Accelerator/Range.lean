import OpTiming.Failure
import OpTiming.Fault

/-!
# Ranges

How many work-items a dispatch has, in up to three dimensions.  A **`Range`** declares as many
components as it has dimensions; the others are one, or all zero in the range without dimensions, so
that the total is always the product of all three.

* **`get`** — a declared component.
* **`total`** — the number of work-items, multiplied from the left.
* **`divideDown`** — every declared component cut down to a multiple of the work-group's, so that a
  dispatch stays inside the buffers it was sized for.
* **`compare`** — ranges in order: by dimension first, then by components.
-/

namespace OpTiming.Accelerator

/-- The number of work-items in each dimension. -/
structure Range where
  /-- How many components are declared. -/
  dimension : Nat
  first : UInt64
  second : UInt64
  third : UInt64
  deriving DecidableEq, Repr

namespace Range

def empty : Range := ⟨0, 0, 0, 0⟩

def d1 (a : UInt64) : Range := ⟨1, a, 1, 1⟩

def d2 (a b : UInt64) : Range := ⟨2, a, b, 1⟩

def d3 (a b c : UInt64) : Range := ⟨3, a, b, c⟩

instance : Inhabited Range := ⟨empty⟩

/-- A number of work-items is a range of one dimension. -/
instance : Coe UInt64 Range := ⟨d1⟩

def components (r : Range) : List UInt64 := [r.first, r.second, r.third]

/-- The declared components. -/
def toList (r : Range) : List UInt64 := r.components.take r.dimension

/-- A declared component. -/
def get (r : Range) (index : Nat) : Except Failure UInt64 :=
  match r.toList[index]? with
  | some size => .ok size
  | none => .error (.rangeIndex index r.dimension)

/-- The number of work-items. -/
def total (r : Range) : Except Fault UInt64 := r.components.foldlM checkedMul 1

/-- The declared components between braces. -/
def «show» (r : Range) : String :=
  "\x7b" ++ ", ".intercalate (r.toList.map toString) ++ "\x7d"

/-! ## Cutting down -/

/-- Cut a component down to a multiple of the work-group's component at the same place. -/
def divideComponent (local_ : Range) (index : Nat) (size : UInt64) : Except Failure UInt64 := do
  let group ← local_.get index
  if group = 0 then .error (.invalidSetting "local work size" local_.show)
  else .ok (size / group * group)

/-- Cut a component down if it is declared; keep it otherwise. -/
def divideDeclared (global local_ : Range) (index : Nat) (size : UInt64) : Except Failure UInt64 :=
  if index < global.dimension then divideComponent local_ index size else .ok size

/-- Cut every declared component down to a multiple of the work-group's.  The first component for
which there is no such multiple decides the failure. -/
def divideDown (global local_ : Range) : Except Failure Range := do
  let first ← divideDeclared global local_ 0 global.first
  let second ← divideDeclared global local_ 1 global.second
  let third ← divideDeclared global local_ 2 global.third
  return ⟨global.dimension, first, second, third⟩

/-! ## Order -/

/-- The order of ranges: by dimension, then by components from the first on. -/
def compare (a b : Range) : Ordering :=
  (Ord.compare a.dimension b.dimension).then <|
    (Ord.compare a.first b.first).then <|
      (Ord.compare a.second b.second).then (Ord.compare a.third b.third)

def sort (ranges : List Range) : List Range :=
  ranges.mergeSort fun a b => (compare a b).isLE

end Range

end OpTiming.Accelerator
