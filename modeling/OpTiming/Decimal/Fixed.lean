import OpTiming.Decimal.Binary

/-!
# Fixed places

The text of a number with a fixed count of decimal places.  **`roundHalfEven`** rounds a quotient of
natural numbers to the nearest whole, a half to the even neighbour; **`fixed`** applies it to the
exact value of the number, so the digits do not depend on any intermediate rounding.  There is never
an exponent, and the sign of a number is kept even where all its shown digits are zero.
-/

namespace OpTiming.Decimal

/-- The whole number nearest to a quotient; a half goes to the even neighbour. -/
def roundHalfEven (num den : Nat) : Nat :=
  let q := num / den
  let r := num % den
  if 2 * r < den then q
  else if den < 2 * r then q + 1
  else if q % 2 = 0 then q else q + 1

/-- A number of units of the last place: `mantissa · 2 ^ exponent · 10 ^ places`, rounded. -/
def scaled (places mantissa : Nat) (exponent : Int) : Nat :=
  if 0 ≤ exponent then mantissa * Nat.pow 2 exponent.toNat * Nat.pow 10 places
  else roundHalfEven (mantissa * Nat.pow 10 places) (Nat.pow 2 (-exponent).toNat)

/-- The decimal digits of a natural number. -/
def digits (n : Nat) : List Char := Nat.toDigits 10 n

/-- Digits with zeros before them, up to a width. -/
def padded (width : Nat) (cs : List Char) : List Char :=
  List.replicate (width - cs.length) '0' ++ cs

/-- A whole number of units of the last place, written with a point before the places. -/
def placed (places units : Nat) : List Char :=
  let whole := digits (units / Nat.pow 10 places)
  if places = 0 then whole
  else whole ++ '.' :: padded places (digits (units % Nat.pow 10 places))

/-- A minus sign where one is due. -/
def signed (negative : Bool) (text : String) : String := if negative then "-" ++ text else text

/-- The text of a number with a fixed count of decimal places. -/
def fixed (places : Nat) (x : Float) : String :=
  match Binary.ofFloat x with
  | .nan => "NaN"
  | .infinite negative => signed negative "inf"
  | .finite negative mantissa exponent =>
    signed negative (String.ofList (placed places (scaled places mantissa exponent)))

end OpTiming.Decimal
