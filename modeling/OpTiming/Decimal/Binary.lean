/-!
# Binary numbers

A double-precision number taken apart.  **`Binary`** is what its 64 bits say: not a number, an
infinity, or a sign, a whole **mantissa** and a power of two, so that the value is
`± mantissa · 2 ^ exponent`.  Every decimal text of a number is computed from these parts in exact
arithmetic on natural numbers.
-/

namespace OpTiming.Decimal

/-- A double-precision number, taken apart. -/
inductive Binary
  | nan
  | infinite (negative : Bool)
  | finite (negative : Bool) (mantissa : Nat) (exponent : Int)
  deriving DecidableEq, Repr

namespace Binary

/-- The least exponent, shared by zero, the subnormal numbers and the smallest normal ones. -/
def leastExponent : Int := -1074

/-- The mantissa's leading bit in a normal number. -/
def leadingBit : Nat := Nat.pow 2 52

/-- Take the 64 bits of a number apart. -/
def ofBits (bits : UInt64) : Binary :=
  let n := bits.toNat
  let negative := n.testBit 63
  let biased := n / Nat.pow 2 52 % Nat.pow 2 11
  let fraction := n % Nat.pow 2 52
  if biased = 2047 then
    if fraction = 0 then infinite negative else nan
  else if biased = 0 then finite negative fraction leastExponent
  else finite negative (leadingBit + fraction) (leastExponent + (biased - 1 : Nat))

/-- Take a number apart. -/
def ofFloat (x : Float) : Binary := ofBits x.toBits

end Binary

end OpTiming.Decimal
