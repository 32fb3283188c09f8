/-!
# Faults of 64-bit counting

Counts are 64-bit unsigned words, and no operation on them wraps silently: a sum or a product that
does not fit, a difference below zero, a division by zero and a read from an empty buffer each stop
the computation with a `Fault`.  The operations that may stop say so in their type, `Except Fault`,
and each is decided on the exact natural numbers:

* **`checkedMul`**, **`checkedAdd`** — the exact result if it is below `2 ^ 64`.
* **`checkedSub`** — the exact difference, unless more is taken than there is.
* **`checkedDiv`** — the quotient, unless the divisor is zero.
* **`saturatingMul`**, **`saturatingSub`** — the nearest word, with no way to stop.
-/

namespace OpTiming

/-- A computation that cannot go on. -/
inductive Fault
  /-- A product of two counts is `2 ^ 64` or more. -/
  | multiplyOverflow
  /-- A sum of two counts is `2 ^ 64` or more. -/
  | addOverflow
  /-- More is taken from a count than there is. -/
  | subtractOverflow
  /-- A count is divided by zero. -/
  | divideByZero
  /-- The first element of a buffer without elements is wanted. -/
  | emptyBuffer
  deriving DecidableEq, Repr

namespace Fault

def message : Fault → String
  | multiplyOverflow => "attempt to multiply with overflow"
  | addOverflow => "attempt to add with overflow"
  | subtractOverflow => "attempt to subtract with overflow"
  | divideByZero => "attempt to divide by zero"
  | emptyBuffer => "index out of bounds: the len is 0 but the index is 0"

end Fault

/-! ## Checked operations -/

def checkedMul (a b : UInt64) : Except Fault UInt64 :=
  if a.toNat * b.toNat < UInt64.size then .ok (a * b) else .error .multiplyOverflow

def checkedAdd (a b : UInt64) : Except Fault UInt64 :=
  if a.toNat + b.toNat < UInt64.size then .ok (a + b) else .error .addOverflow

def checkedSub (a b : UInt64) : Except Fault UInt64 :=
  if b ≤ a then .ok (a - b) else .error .subtractOverflow

def checkedDiv (a b : UInt64) : Except Fault UInt64 :=
  if b = 0 then .error .divideByZero else .ok (a / b)

/-- The sum of several counts, added from the left. -/
def checkedSum (xs : List UInt64) : Except Fault UInt64 :=
  xs.foldlM checkedAdd 0

/-! ## Saturating operations -/

/-- The product of two counts, or the largest count if it does not fit. -/
def saturatingMul (a b : UInt64) : UInt64 :=
  if a.toNat * b.toNat < UInt64.size then a * b else UInt64.ofNat (UInt64.size - 1)

/-- What is left of a count, zero if more is taken than there is. -/
def saturatingSub (a b : UInt64) : UInt64 :=
  if b ≤ a then a - b else 0

end OpTiming
