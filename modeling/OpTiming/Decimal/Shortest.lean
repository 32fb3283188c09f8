import OpTiming.Decimal.Binary

/-!
# Fewest digits

The shortest decimal that reads back as a given number.  All reals in an interval around the value
round to it; the ends of the interval are halfway to its two neighbours and belong to it iff the
mantissa is even.  **`shortest`** tries the decimal grids with one, two, … seventeen digits: on a
grid only the two points next to the value can lie in the interval, because a point further away
has one of these between itself and the value.  The first grid with a hit has the fewest digits; of
two hits the nearer is taken, and of two equally near ones the even.

Values are fractions of natural numbers with a common denominator, so nothing is rounded on the way.
-/

namespace OpTiming.Decimal

/-- A positive value and the reals that round to it: `low / den`, `value / den` and `high / den`. -/
structure Interval where
  low : Nat
  value : Nat
  high : Nat
  den : Nat
  /-- Whether the ends round to the value as well. -/
  closed : Bool

namespace Interval

/-- The interval of `mantissa · 2 ^ exponent`.  The neighbour below a power of two is nearer than
the one above, except among the smallest numbers. -/
def ofBinary (mantissa : Nat) (exponent : Int) : Interval :=
  let narrow := mantissa = Binary.leadingBit ∧ exponent ≠ Binary.leastExponent
  let up := Nat.pow 2 (exponent - 2).toNat
  { low := (4 * mantissa - if narrow then 1 else 2) * up
    value := 4 * mantissa * up
    high := (4 * mantissa + 2) * up
    den := Nat.pow 2 (2 - exponent).toNat
    closed := mantissa % 2 = 0 }

/-- The interval seen on the grid of the multiples of `10 ^ place`. -/
def onGrid (i : Interval) (place : Int) : Interval :=
  let up := Nat.pow 10 (-place).toNat
  { low := i.low * up, value := i.value * up, high := i.high * up
    den := i.den * Nat.pow 10 place.toNat, closed := i.closed }

/-- Whether a whole number lies in the interval. -/
def contains (i : Interval) (n : Nat) : Bool :=
  if i.closed then i.low ≤ n * i.den && n * i.den ≤ i.high
  else i.low < n * i.den && n * i.den < i.high

/-- The whole number in the interval nearest to the value, if one of its two neighbours is in it. -/
def nearest? (i : Interval) : Option Nat :=
  let below := i.value / i.den
  let above := below + 1
  let toBelow := i.value - below * i.den
  let toAbove := above * i.den - i.value
  match i.contains below, i.contains above with
  | false, false => none
  | true, false => some below
  | false, true => some above
  | true, true =>
    -- the even one where both are equally near
    if toBelow < toAbove then some below
    else if toAbove < toBelow then some above
    else if below % 2 = 0 then some below else some above

/-- How many digits the value has before its point; zero or less if it starts after it.  The
estimate from the binary logarithm is at most one too small. -/
def magnitude (i : Interval) : Int :=
  let log2 : Int := (i.value.log2 : Int) - i.den.log2 - 1
  let estimate := log2 * 30103 / 100000
  let reaches (p : Int) : Bool :=
    Nat.pow 10 p.toNat * i.den ≤ i.value * Nat.pow 10 (-p).toNat
  if reaches (estimate + 1) then estimate + 2
  else if reaches estimate then estimate + 1
  else estimate

end Interval

/-- A positive decimal `0.d₁d₂…dₙ · 10 ^ point`, with neither end digit zero. -/
structure Digits where
  digits : List Char
  point : Int
  deriving DecidableEq, Repr

/-- Write `n · 10 ^ place` without zeros at the end. -/
def Digits.ofNat (n : Nat) (place : Int) : Digits :=
  let all := Nat.toDigits 10 n
  ⟨(all.reverse.dropWhile (· == '0')).reverse, place + all.length⟩

/-- The shortest digits on grids of `size` digits and more, among `fuel` grids. -/
def shortestFrom (i : Interval) (magnitude : Int) : (fuel size : Nat) → Option Digits
  | 0, _ => none
  | fuel + 1, size =>
    let place := magnitude - size
    match (i.onGrid place).nearest? with
    | some n => some (Digits.ofNat n place)
    | none => shortestFrom i magnitude fuel (size + 1)

/-- The shortest decimal that reads back as `mantissa · 2 ^ exponent`, a positive number. -/
def shortest (mantissa : Nat) (exponent : Int) : Digits :=
  let i := Interval.ofBinary mantissa exponent
  (shortestFrom i i.magnitude 17 1).getD ⟨['0'], 1⟩

end OpTiming.Decimal
